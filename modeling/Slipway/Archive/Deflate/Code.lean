/-!
# Prefix codes

Code lengths from how often each symbol occurs, and the codes of given lengths. No code has more
than a given number of bits.
-/

namespace Slipway.Deflate

/-! ## Lengths -/

/-- A tree of symbols: how often they occur together, and how many of them are at each depth. -/
structure Tree where
  weight : Nat
  depths : List Nat

def addDepths : List Nat → List Nat → List Nat
  | [], ys => ys
  | xs, [] => xs
  | x :: xs, y :: ys => (x + y) :: addDepths xs ys

/-- Two trees under a new root. -/
def Tree.join (s t : Tree) : Tree := ⟨s.weight + t.weight, 0 :: addDepths s.depths t.depths⟩

/-- Takes the lightest tree; a single symbol goes before a joined tree of the same weight. -/
def takeLightest : (leaves joined : List Tree) → Option (Tree × List Tree × List Tree)
  | [], [] => none
  | leaf :: leaves, [] => some (leaf, leaves, [])
  | [], tree :: joined => some (tree, [], joined)
  | leaf :: leaves, tree :: joined =>
    if tree.weight < leaf.weight then some (tree, leaf :: leaves, joined)
    else some (leaf, leaves, tree :: joined)

/-- Joins the two lightest trees until one is left. -/
def joinAll : (fuel : Nat) → (leaves joined : List Tree) → List Nat
  | 0, _, _ => []
  | fuel + 1, leaves, joined =>
    match takeLightest leaves joined with
    | none => []
    | some (s, leaves, joined) =>
      match takeLightest leaves joined with
      | none => s.depths
      | some (t, leaves, joined) => joinAll fuel leaves (joined ++ [s.join t])

/-- How many symbols get each length, from 0 on, before the lengths are limited. A symbol that is
alone has length 1. -/
def idealDepths (weights : List Nat) : List Nat :=
  match weights with
  | [] => []
  | [_] => [0, 1]
  | _ => joinAll weights.length (weights.map (⟨·, [1]⟩)) []

/-- The share of all codes of `limit` bits that the codes of these lengths take. -/
def usedShare (limit : Nat) (depths : List Nat) : Nat :=
  (depths.zip (List.range (limit + 1))).foldl
    (fun used (count, length) => if length = 0 then used else used + count <<< (limit - length)) 0

/-- Adds two codes one bit below the deepest code there is; `deeper` is the number of codes at
that depth. -/
def pushDown : (deeper : Nat) → List Nat → List Nat
  | deeper, [] => [deeper]
  | deeper, count :: rest =>
    if count = 0 then deeper :: pushDown 0 rest else (deeper + 2) :: (count - 1) :: rest

/-- Makes room for one code of the last length by moving another code one bit further. -/
def relieve (depths : List Nat) : List Nat :=
  match depths.reverse with
  | [] => []
  | last :: before => (pushDown (last - 1) before).reverse

def limitBy : (rounds : Nat) → List Nat → List Nat
  | 0, depths => depths
  | rounds + 1, depths => limitBy rounds (relieve depths)

/-- The numbers of symbols of each length, from 0 to `limit`. -/
def limitDepths (limit : Nat) (depths : List Nat) : List Nat :=
  let kept := depths.take (limit + 1)
  let filled := kept ++ List.replicate (limit + 1 - kept.length) 0
  let surplus := (depths.drop (limit + 1)).foldl (· + ·) 0
  let cut := filled.take limit ++ [filled.getD limit 0 + surplus]
  limitBy (usedShare limit cut - Nat.pow 2 limit) cut

/-- The lengths in descending order, so that rare symbols get the long ones. -/
def descending (depths : List Nat) : List Nat :=
  ((depths.zip (List.range depths.length)).reverse).flatMap
    (fun (count, length) => if length = 0 then [] else List.replicate count length)

/-- The code length of each symbol, 0 for those that do not occur. -/
def lengthsFor (limit : Nat) (counts : List Nat) : List Nat :=
  let used := ((counts.zip (List.range counts.length)).filter (·.1 ≠ 0)).mergeSort
    (fun x y => x.1 ≤ y.1)
  let depths := limitDepths limit (idealDepths (used.map (·.1)))
  let assigned := (used.map (·.2)).zip (descending depths)
  assigned.foldl (fun (lengths : Array Nat) (symbol, length) =>
    lengths.setIfInBounds symbol length) (Array.replicate counts.length 0) |>.toList

/-! ## Codes -/

/-- The bits of a code in the order in which they are written, the first one lowest. -/
structure Code where
  bits : Nat := 0
  length : Nat := 0

/-- The lowest `width` bits of `n` in reverse order. -/
def reverseBits : (width n : Nat) → Nat
  | 0, _ => 0
  | width + 1, n => (n % 2) * Nat.pow 2 width + reverseBits width (n / 2)

/-- The first code of each length, from 0 on. -/
def firstCodes (lengths : List Nat) (limit : Nat) : Array Nat :=
  let used (length : Nat) := if length = 0 then 0 else lengths.count length
  (((List.range limit).foldl (fun (codes, code) length =>
    let next := (code + used length) * 2
    (codes.push next, next)) ((#[0] : Array Nat), 0))).1

/-- Codes of the given lengths, in the order of length and then of symbol. -/
def codesOf (limit : Nat) (lengths : List Nat) : Array Code :=
  (lengths.foldl (fun (codes, next) length =>
    if length = 0 then (codes.push {}, next)
    else
      let code := next.getD length 0
      (codes.push ⟨reverseBits length code, length⟩, next.setIfInBounds length (code + 1)))
    ((#[] : Array Code), firstCodes lengths limit)).1

end Slipway.Deflate
