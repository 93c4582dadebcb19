import Slipway.Text.Utf8

/-!
# Differences of sequences

Which items have to be taken out of one sequence and put into another one to make them equal. The
shortest way is found by searching from both ends at once; where they meet, the problem falls into
two smaller ones. Runs of changes are then moved as far down as they can be.
-/

namespace Slipway.Differences

/-! ## Marks -/

/-- Which items of a sequence are changed. -/
abbrev Marks := Array Bool

/-- Whether there is a changed item at a place; there is none outside. -/
def Marks.at (marks : Marks) (i : Int) : Bool :=
  if i < 0 then false else marks.getD i.toNat false

def Marks.put (marks : Marks) (i : Int) (value : Bool) : Marks :=
  if i < 0 then marks else marks.setIfInBounds i.toNat value

/-! ## The middle of a shortest way -/

/-- How far the search has come on each diagonal; the diagonals are counted from `-offset` on. -/
structure Front where
  offset : Nat
  places : Array Int

def Front.get (f : Front) (d : Int) : Int := f.places.getD (d + f.offset).toNat 0

def Front.put (f : Front) (d x : Int) : Front :=
  { f with places := f.places.setIfInBounds (d + f.offset).toNat x }

/-- A part of two sequences. -/
structure Window where
  xlow : Int
  xhigh : Int
  ylow : Int
  yhigh : Int

section

variable (xs ys : Array Nat)

def sameAt (x y : Int) : Bool := xs.getD x.toNat 0 = ys.getD y.toNat 0

/-- The end of the equal items that begin at a place. -/
def slideDown (w : Window) : (fuel : Nat) → (x y : Int) → Int
  | 0, x, _ => x
  | fuel + 1, x, y =>
    if x < w.xhigh ∧ y < w.yhigh ∧ sameAt xs ys x y then slideDown w fuel (x + 1) (y + 1) else x

/-- The start of the equal items that end at a place. -/
def slideUp (w : Window) : (fuel : Nat) → (x y : Int) → Int
  | 0, x, _ => x
  | fuel + 1, x, y =>
    if w.xlow < x ∧ w.ylow < y ∧ sameAt xs ys (x - 1) (y - 1) then slideUp w fuel (x - 1) (y - 1)
    else x

/-- The search from both ends, with the diagonals that each has come to. -/
structure Search where
  forward : Front
  backward : Front
  fmin : Int
  fmax : Int
  bmin : Int
  bmax : Int

/-- More than any place. -/
def beyond : Int := 1000000000000

/-- One more step from the start, on every other diagonal from `d` down. -/
def stepForward (w : Window) (odd : Bool) : (fuel : Nat) → Search → (d : Int) →
    Search × Option (Int × Int)
  | 0, s, _ => (s, none)
  | fuel + 1, s, d =>
    if d < s.fmin then (s, none)
    else
      let low := s.forward.get (d - 1)
      let high := s.forward.get (d + 1)
      let start := if low < high then high else low + 1
      let x := slideDown xs ys w (xs.size + 1) start (start - d)
      let s := { s with forward := s.forward.put d x }
      if odd ∧ s.bmin ≤ d ∧ d ≤ s.bmax ∧ s.backward.get d ≤ x then (s, some (x, x - d))
      else stepForward w odd fuel s (d - 2)

/-- One more step from the end. -/
def stepBackward (w : Window) (odd : Bool) : (fuel : Nat) → Search → (d : Int) →
    Search × Option (Int × Int)
  | 0, s, _ => (s, none)
  | fuel + 1, s, d =>
    if d < s.bmin then (s, none)
    else
      let low := s.backward.get (d - 1)
      let high := s.backward.get (d + 1)
      let start := if low < high then low else high - 1
      let x := slideUp xs ys w (xs.size + 1) start (start - d)
      let s := { s with backward := s.backward.put d x }
      if !odd ∧ s.fmin ≤ d ∧ d ≤ s.fmax ∧ x ≤ s.forward.get d then (s, some (x, x - d))
      else stepBackward w odd fuel s (d - 2)

/-- Widens a search by one diagonal on each side, as far as there are more. -/
def widen (low high dmin dmax bound : Int) (front : Front) : Int × Int × Front :=
  let (low, front) := if dmin < low then (low - 1, front.put (low - 2) bound) else (low + 1, front)
  let (high, front) := if high < dmax then (high + 1, front.put (high + 2) bound)
    else (high - 1, front)
  (low, high, front)

def searchOn (w : Window) (odd : Bool) (dmin dmax : Int) : (fuel : Nat) → Search → Int × Int
  | 0, _ => (w.xlow, w.ylow)
  | fuel + 1, s =>
    let (fmin, fmax, forward) := widen s.fmin s.fmax dmin dmax (-1) s.forward
    let width := xs.size + ys.size + 4
    match stepForward xs ys w odd width { s with fmin, fmax, forward } fmax with
    | (_, some found) => found
    | (s, none) =>
      let (bmin, bmax, backward) := widen s.bmin s.bmax dmin dmax beyond s.backward
      match stepBackward xs ys w odd width { s with bmin, bmax, backward } bmax with
      | (_, some found) => found
      | (s, none) => searchOn w odd dmin dmax fuel s

/-- A place in the middle of a shortest way through a window. -/
def middle (w : Window) : Int × Int :=
  let fmid := w.xlow - w.ylow
  let bmid := w.xhigh - w.yhigh
  let offset := ys.size + 2
  let empty : Front := ⟨offset, Array.replicate (xs.size + ys.size + 6) 0⟩
  searchOn xs ys w ((fmid - bmid) % 2 ≠ 0) (w.xlow - w.yhigh) (w.xhigh - w.ylow)
    (xs.size + ys.size + 2)
    { forward := empty.put fmid w.xlow, backward := empty.put bmid w.xhigh
      fmin := fmid, fmax := fmid, bmin := bmid, bmax := bmid }

/-! ## Comparing -/

def markAll : (count : Nat) → (i : Int) → Marks → Marks
  | 0, _, marks => marks
  | count + 1, i, marks => markAll count (i + 1) (marks.put i true)

/-- Marks what has to change in a window. -/
def compareIn : (fuel : Nat) → Window → Marks × Marks → Marks × Marks
  | 0, _, marks => marks
  | fuel + 1, w, marks =>
    let xlow := slideDown xs ys w (xs.size + 1) w.xlow w.ylow
    let w := { w with xlow, ylow := w.ylow + (xlow - w.xlow) }
    let xhigh := slideUp xs ys w (xs.size + 1) w.xhigh w.yhigh
    let w := { w with xhigh, yhigh := w.yhigh - (w.xhigh - xhigh) }
    if w.xlow = w.xhigh then (marks.1, markAll (w.yhigh - w.ylow).toNat w.ylow marks.2)
    else if w.ylow = w.yhigh then (markAll (w.xhigh - w.xlow).toNat w.xlow marks.1, marks.2)
    else
      let (x, y) := middle xs ys w
      let marks := compareIn fuel { w with xhigh := x, yhigh := y } marks
      compareIn fuel { w with xlow := x, ylow := y } marks

end

/-- The items that the other sequence has as well, with their places. -/
def shared (xs ys : Array Nat) : Array (Nat × Nat) :=
  let most := ys.foldl max 0
  let known := ys.foldl (fun known y => known.setIfInBounds y true) (Array.replicate (most + 1) false)
  xs.zipIdx.filter (fun x => known.getD x.1 false)

/-- Marks as changed what the other sequence does not have, and what differs otherwise. -/
def marksOf (xs ys : Array Nat) : Marks × Marks :=
  let a := shared xs ys
  let b := shared ys xs
  let (p, q) := compareIn (a.map (·.1)) (b.map (·.1)) (a.size + b.size + 2)
    ⟨0, a.size, 0, b.size⟩ (Array.replicate a.size false, Array.replicate b.size false)
  let spread (size : Nat) (kept : Array (Nat × Nat)) (marks : Marks) : Marks :=
    kept.zipIdx.foldl (fun all (item, i) => all.setIfInBounds item.2 (marks.getD i false))
      (Array.replicate size true)
  (spread xs.size a p, spread ys.size b q)

/-! ## Moving runs of changes -/

/-- A run of changes from `start` to `i`, and the place `j` in the other sequence. -/
structure Run where
  marks : Marks
  start : Int
  i : Int
  j : Int
  corresponding : Int := 0

/-- The first place from `i` on that is not marked. -/
def skipUp (marks : Marks) : (fuel : Nat) → Int → Int
  | 0, i => i
  | fuel + 1, i => if marks.at i then skipUp marks fuel (i + 1) else i

/-- The first place from `i` down that is not marked. -/
def skipDown (marks : Marks) : (fuel : Nat) → Int → Int
  | 0, i => i
  | fuel + 1, i => if marks.at i then skipDown marks fuel (i - 1) else i

section

variable (items : Array Nat) (others : Marks)

def itemAt (i : Int) : Nat := items.getD i.toNat 0

/-- The start of a run of marks that ends in front of a place. -/
def startOf (marks : Marks) (start : Int) : Int := skipDown marks (marks.size + 1) (start - 1) + 1

/-- Moves a run back while the item in front of it is like its last one. -/
def moveBack : (fuel : Nat) → Run → Run
  | 0, r => r
  | fuel + 1, r =>
    if 0 < r.start ∧ itemAt items (r.start - 1) = itemAt items (r.i - 1) then
      let marks := (r.marks.put (r.start - 1) true).put (r.i - 1) false
      let start := startOf marks (r.start - 1)
      moveBack fuel { r with
        marks, start, i := r.i - 1, j := skipDown others (others.size + 1) (r.j - 1) }
    else r

/-- Passes the changes of the other sequence behind `j`, and remembers where a run corresponds to
them. -/
def passOthers : (fuel : Nat) → Run → Run
  | 0, r => r
  | fuel + 1, r =>
    if others.at (r.j + 1) then passOthers fuel { r with j := r.j + 1, corresponding := r.i }
    else { r with j := r.j + 1 }

/-- Moves a run forward while the item behind it is like its first one. -/
def moveForward (size : Int) : (fuel : Nat) → Run → Run
  | 0, r => r
  | fuel + 1, r =>
    if r.i ≠ size ∧ itemAt items r.start = itemAt items r.i then
      let marks := (r.marks.put r.start false).put r.i true
      let i := skipUp marks (marks.size + 1) (r.i + 1)
      moveForward size fuel
        (passOthers others (others.size + 1) { r with marks, start := r.start + 1, i })
    else r

/-- Moves a run to and fro until it does not grow any more. -/
def settleRun (size : Int) : (fuel : Nat) → Run → Run
  | 0, r => r
  | fuel + 1, r =>
    let length := r.i - r.start
    let r := moveBack items others (items.size + 1) r
    let r := { r with corresponding := if others.at (r.j - 1) then r.i else size }
    let r := moveForward items others size (items.size + 1) r
    if length = r.i - r.start then r else settleRun size fuel r

/-- Moves a run back to where it corresponds to changes of the other sequence. -/
def moveToCorresponding : (fuel : Nat) → Run → Run
  | 0, r => r
  | fuel + 1, r =>
    if r.corresponding < r.i then
      let marks := (r.marks.put (r.start - 1) true).put (r.i - 1) false
      moveToCorresponding fuel { r with
        marks, start := r.start - 1, i := r.i - 1
        j := skipDown others (others.size + 1) (r.j - 1) }
    else r

/-- Goes on to the next run of changes. -/
def findRun (marks : Marks) (size : Int) : (fuel : Nat) → (i j : Int) → Int × Int
  | 0, i, j => (i, j)
  | fuel + 1, i, j =>
    if i < size ∧ !marks.at i then
      findRun marks size fuel (i + 1) (skipUp others (others.size + 1) j + 1)
    else (i, j)

def moveRuns (size : Int) : (fuel : Nat) → Marks → (i j : Int) → Marks
  | 0, marks, _, _ => marks
  | fuel + 1, marks, i, j =>
    let (start, j) := findRun others marks size (items.size + 1) i j
    if start = size then marks
    else
      let i := skipUp marks (marks.size + 1) (start + 1)
      let j := skipUp others (others.size + 1) j
      let r := settleRun items others size (items.size + 1) { marks, start, i, j }
      let r := moveToCorresponding others (items.size + 1) r
      moveRuns size fuel r.marks r.i r.j

end

/-! ## Changes -/

/-- So many items of one sequence from a place on in place of so many of the other one. -/
structure Change where
  place : Nat
  removed : Nat
  otherPlace : Nat
  added : Nat

def changesFrom (p q : Marks) : (fuel : Nat) → (i j : Nat) → List Change
  | 0, _, _ => []
  | fuel + 1, i, j =>
    if p.size ≤ i ∧ q.size ≤ j then []
    else
      let i2 := (skipUp p (p.size + 1) i).toNat
      let j2 := (skipUp q (q.size + 1) j).toNat
      if i2 = i ∧ j2 = j then changesFrom p q fuel (i + 1) (j + 1)
      else ⟨i, i2 - i, j, j2 - j⟩ :: changesFrom p q fuel i2 j2

/-- The changes that lead from one sequence to another, in order. -/
def changes (xs ys : Array Nat) : List Change :=
  let (p, q) := marksOf xs ys
  let p := moveRuns xs q xs.size (xs.size + 1) p 0 0
  let q := moveRuns ys p ys.size (ys.size + 1) q 0 0
  changesFrom p q (xs.size + ys.size + 2) 0 0

end Slipway.Differences
