import Slipway.Tool.Sorting

/-!
# Programs about numbers

Numbers with letters for powers, prime factors, and lines in some order: any order, or one that
agrees with given pairs.
-/

namespace Slipway.Tool

open Shell

/-! ## Numbers with letters -/

/-- A number as a fraction. -/
structure Fraction where
  above : Int
  below : Nat

namespace Fraction

/-- Whole numbers that are near. -/
inductive Rounding
  | up
  | down
  | fromZero
  | towardsZero
  | nearest
  deriving DecidableEq

def absGe (f : Fraction) (n : Nat) : Bool := n * f.below ≤ f.above.natAbs

def scale (f : Fraction) (n : Nat) : Fraction := { f with above := f.above * n }

def divide (f : Fraction) (n : Nat) : Fraction := { f with below := f.below * n }

def round (f : Fraction) (mode : Rounding) : Int :=
  let below : Int := f.below
  let floor := Int.fdiv f.above below
  let ceiling := -Int.fdiv (-f.above) below
  match mode with
  | .up => ceiling
  | .down => floor
  | .fromZero => if 0 ≤ f.above then ceiling else floor
  | .towardsZero => if 0 ≤ f.above then floor else ceiling
  | .nearest =>
    if 0 ≤ f.above then Int.fdiv (2 * f.above + below) (2 * below)
    else -Int.fdiv (-2 * f.above + below) (2 * below)

/-- The digits with so many places behind the point; a half goes to the even neighbour. -/
def digits (f : Fraction) (places : Nat) : Text :=
  let scaled := f.above.natAbs * Nat.pow 10 places
  let whole := scaled / f.below
  let twice := 2 * (scaled % f.below)
  let n := if f.below < twice ∨ (twice = f.below ∧ whole % 2 = 1) then whole + 1 else whole
  let all := naturalText n
  let all := List.replicate (places + 1 - all.length) '0' ++ all
  let body := if places = 0 then all
    else all.take (all.length - places) ++ '.' :: all.drop (all.length - places)
  if f.above < 0 then '-' :: body else body

end Fraction

/-- Letters for powers of a thousand. -/
def powerLetters : Text := "KMGTPEZY".toList

inductive NumberScale
  | none
  | si
  | iec
  | iecI
  | auto
  deriving DecidableEq

def NumberScale.ofName? : String → Option NumberScale
  | "none" => some .none
  | "si" => some .si
  | "iec" => some .iec
  | "iec-i" => some .iecI
  | "auto" => some .auto
  | _ => Option.none

def NumberScale.base (s : NumberScale) : Nat := if s = .iec ∨ s = .iecI then 1024 else 1000

structure NumberPlan where
  source : NumberScale := .none
  target : NumberScale := .none
  sourceUnit : Nat := 1
  targetUnit : Nat := 1
  rounding : Fraction.Rounding := .fromZero
  suffix : Text := []
  /-- A width; on the left where it is negative. -/
  padding : Int := 0
  zeros : Bool := false
  precision : Option Nat := none
  before : Text := []
  after : Text := []

/-- A number as it is written, with its power, and how many places it has behind the point. -/
def NumberPlan.read (p : NumberPlan) (text : Text) : Except String (Fraction × Nat) :=
  let shown := emphasized text
  let (sign, body) := match text with
    | '-' :: rest => ((-1 : Int), rest)
    | rest => (1, rest)
  let whole := body.takeWhile isDigitChar
  let rest := body.drop whole.length
  let (places, rest, isBad) := match rest with
    | '.' :: more =>
      let digits := more.takeWhile isDigitChar
      (digits, more.drop digits.length, digits.isEmpty)
    | rest => ([], rest, false)
  if whole.isEmpty ∨ isBad then .error ("invalid number: " ++ shown)
  else
    let n : Int := sign * (valueOfDigits 10 (whole ++ places) : Nat)
    let value : Fraction := ⟨n, Nat.pow 10 places.length⟩
    match rest with
    | [] => .ok (value, places.length)
    | letter :: more =>
      match powerLetters.findIdx? (· = letter) with
      | none => .error ("invalid suffix in input: " ++ shown)
      | some i =>
        if p.source = .none then .error ("rejecting suffix in input: " ++ shown
          ++ " (consider using --from)")
        else
          let (base, more) := if p.source = .auto ∧ more.head? = some 'i' then (1024, more.drop 1)
            else (p.source.base, more)
          if p.source = .iecI ∧ more.head? ≠ some 'i' then
            .error ("missing 'i' suffix in input: " ++ shown ++ " (e.g Ki/Mi/Gi)")
          else
            let more := if p.source = .iecI then more.drop 1 else more
            if !more.isEmpty then .error ("invalid suffix in input " ++ shown ++ ": " ++ emphasized more)
            else .ok (value.scale (Nat.pow base (i + 1)), 0)

/-- How often a number has to be divided before it is below the base. -/
def powerOf (base : Nat) : (fuel : Nat) → Fraction → Nat
  | 0, _ => 0
  | fuel + 1, f => if f.absGe base then 1 + powerOf base fuel (f.divide base) else 0

def NumberPlan.shownNumber (p : NumberPlan) (value : Fraction) (places : Nat) : Text :=
  if p.target = .none then
    let places := p.precision.getD places
    let scale := Nat.pow 10 places
    Fraction.digits ⟨(value.scale scale).round p.rounding, scale⟩ places
  else
    let base := p.target.base
    let power := powerOf base 12 value
    let reduced := value.divide (Nat.pow base power)
    let adjust := match p.precision with
      | some n => min (power * 3) n
      | none => if reduced.absGe 10 then 0 else 1
    let rounded : Fraction :=
      ⟨(reduced.scale (Nat.pow 10 adjust)).round p.rounding, Nat.pow 10 adjust⟩
    let (rounded, power) := if rounded.absGe base then (rounded.divide base, power + 1)
      else (rounded, power)
    let showsPoint := rounded.above ≠ 0 && !rounded.absGe 10 && 0 < power
    let letter := if power = 0 then [] else [powerLetters.getD (power - 1) '?']
    rounded.digits (p.precision.getD (if showsPoint then 1 else 0)) ++ letter
      ++ (if p.target = .iecI ∧ 0 < power then ['i'] else [])

/-- Converts the number in a field; blanks in front of it count for its width. -/
def NumberPlan.convert (p : NumberPlan) (keepsWidth : Bool) (field : Text) : Except String Text := do
  let text := field.dropWhile isSpaceChar
  let bare := if !p.suffix.isEmpty ∧ p.suffix.isSuffixOf text then text.take (text.length - p.suffix.length)
    else text
  let (value, places) ← p.read bare
  let value := (value.scale p.sourceUnit).divide p.targetUnit
  let body := p.shownNumber value places ++ p.suffix
  let width := if p.padding ≠ 0 then p.padding.natAbs
    else if keepsWidth ∨ text.length < field.length then field.length else 0
  let padded := if p.padding < 0 then padRight width body
    else if p.zeros then
      match body with
      | '-' :: digits => '-' :: (List.replicate (width - body.length) '0' ++ digits)
      | digits => List.replicate (width - body.length) '0' ++ digits
    else padLeft width body
  .ok (p.before ++ padded ++ p.after)

/-- A format with one number in it: zeros, a width on one side, and a precision. -/
def NumberPlan.format (p : NumberPlan) (text : Text) : Except String NumberPlan :=
  let before := text.takeWhile (· ≠ '%')
  match text.drop before.length with
  | [] => .error ("format " ++ emphasized text ++ " has no % directive")
  | _ :: rest =>
    let flags := rest.takeWhile (fun c => "0'- ".toList.contains c)
    let rest := rest.drop flags.length
    let width := rest.takeWhile isDigitChar
    let rest := rest.drop width.length
    let (precision, rest) := match rest with
      | '.' :: more =>
        let digits := more.takeWhile isDigitChar
        (some (valueOfDigits 10 digits), more.drop digits.length)
      | rest => (none, rest)
    match rest with
    | 'f' :: after =>
      let n : Int := (valueOfDigits 10 width : Nat)
      .ok { p with
        before, after, precision, zeros := flags.contains '0'
        padding := if flags.contains '-' then -n else n }
    | _ => .error ("invalid format " ++ emphasized text ++ ", directive must be %[0]['][-][N][.][N]f")

def numfmtFlags : List Flag := [
  longFlag "debug", setting 'd' "delimiter", longFlag "field" .value, longFlag "format" .value,
  longFlag "from" .value, longFlag "from-unit" .value, longFlag "grouping",
  longFlag "header" .optional, longFlag "invalid" .value, longFlag "padding" .value,
  longFlag "round" .value, longFlag "suffix" .value, longFlag "to" .value,
  longFlag "to-unit" .value, flag 'z' "zero-terminated"]

/-- A choice among words, of which the beginning is enough. -/
def chooseWord (names : List String) (option : String) (text : Text) : Except (List String) String :=
  let given := String.ofList text
  match names.filter (fun name => startsWith name given) with
  | [name] => .ok name
  | found =>
    if found.contains given then .ok given
    else .error (((if found.isEmpty then "invalid" else "ambiguous") ++ " argument " ++ quoted text
        ++ " for " ++ emphasized option.toList)
      :: "Valid arguments are:" :: names.map (fun name => "  - " ++ emphasized name.toList))

def NumberPlan.ofArguments (a : Arguments) : Except (List String) NumberPlan := do
  let scale (key : String) (names : List String) : Except (List String) NumberScale :=
    match a.value? key with
    | none => .ok .none
    | some text => do
      let name ← chooseWord names ("--" ++ key) text
      .ok ((NumberScale.ofName? name).getD .none)
  let source ← scale "from" ["none", "auto", "si", "iec", "iec-i"]
  let target ← scale "to" ["none", "si", "iec", "iec-i"]
  let rounding ← match a.value? "round" with
    | none => .ok Fraction.Rounding.fromZero
    | some text => do
      match ← chooseWord ["up", "down", "from-zero", "towards-zero", "nearest"] "--round" text with
      | "up" => .ok .up
      | "down" => .ok .down
      | "towards-zero" => .ok .towardsZero
      | "nearest" => .ok .nearest
      | _ => .ok .fromZero
  let unit (key : String) : Nat := ((a.value? key).bind size?).getD 1
  let padding : Except (List String) Int := match a.value? "padding" with
    | none => .ok 0
    | some text =>
      match number? 10 text with
      | some n => if n = 0 then .error ["invalid padding value " ++ emphasized text] else .ok n
      | none => .error ["invalid padding value " ++ emphasized text]
  let p : NumberPlan := {
    source, target, rounding, sourceUnit := unit "from-unit", targetUnit := unit "to-unit"
    suffix := (a.value? "suffix").getD [], padding := ← padding }
  match a.value? "format" with
  | none => .ok p
  | some text => (p.format text).mapError ([·])

/-- The fields of a line; blanks in front of a word belong to it, but for the one that separates. -/
def numberFields (delimiter : Option Char) (line : Text) : List Text :=
  match delimiter with
  | some c => line.splitOn c
  | none => go (line.length + 1) line
where
  go : (fuel : Nat) → Text → List Text
    | 0, _ => []
    | fuel + 1, text =>
      let blanks := text.takeWhile isSpaceChar
      let word := (text.drop blanks.length).takeWhile (fun c => !isSpaceChar c)
      match text.drop (blanks.length + word.length) with
      | [] => [blanks ++ word]
      | _ :: rest => (blanks ++ word) :: go fuel rest

/-- Whether a field is to be converted, by its number. -/
def isChosenField (a : Arguments) (n : Nat) : Bool :=
  match a.value? "field" with
  | none => n = 1
  | some text => (text.splitOn ',').any fun part =>
      match part.splitOn '-' with
      | [one] => decimal? one = some n
      | [low, high] => ((decimal? low).getD 1 ≤ n : Bool) && (n ≤ (decimal? high).getD n : Bool)
      | _ => false

def numfmt (args : List Text) : Eval Nat :=
  withArguments numfmtFlags args fun a => do
    match NumberPlan.ofArguments a with
    | .error lines => do
      say (lines.headD "")
      (lines.drop 1).forM (fun line => complain (line ++ "\n"))
      if 1 < lines.length then recommendHelp
      pure 1
    | .ok p => do
      let delimiter := (a.value? "delimiter").bind List.head?
      let ending := if a.has "zero-terminated" then '\x00' else '\n'
      let mode := String.ofList ((a.value? "invalid").getD "abort".toList)
      let header := match a.value? "header" with
        | none => 0
        | some text => (decimal? text).getD 1
      let lines ← if a.operands.isEmpty then do
          match ← readText ['-'] with
          | .ok text => pure (splitAtChar ending text)
          | .error _ => pure []
        else pure a.operands
      let header := if a.operands.isEmpty then header else 0
      (lines.take header).forM (fun line => print (line ++ [ending]))
      work a p delimiter ending mode 0 (lines.drop header)
where
  /-- Converts the lines one after the other. -/
  work (a : Arguments) (p : NumberPlan) (delimiter : Option Char) (ending : Char) (mode : String) :
      (code : Nat) → List Text → Eval Nat
    | code, [] => pure code
    | code, line :: rest => do
      let fields := numberFields delimiter line
      let done : List (Text × Option String) := fields.zipIdx.map fun (field, i) =>
        if !isChosenField a (i + 1) then (field, none)
        else
          match p.convert (0 < i && delimiter.isNone) field with
          | .ok text => (text, none)
          | .error text => (field, some text)
      let problems := done.filterMap (·.2)
      if mode ≠ "ignore" then
        (if mode = "abort" then problems.take 1 else problems).forM say
      if mode = "abort" ∧ !problems.isEmpty then pure 2
      else do
        print (List.intercalate [delimiter.getD ' '] (done.map (·.1)) ++ [ending])
        work a p delimiter ending mode
          (if mode = "fail" ∧ !problems.isEmpty then 2 else code) rest

/-! ## factor -/

/-- The prime factors of a number from a divisor on. -/
def factorsFrom : (fuel : Nat) → (d n : Nat) → List Nat
  | 0, _, n => if 1 < n then [n] else []
  | fuel + 1, d, n =>
    if n < 2 then []
    else if n < d * d then [n]
    else if n % d = 0 then d :: factorsFrom fuel d (n / d)
    else factorsFrom fuel (if d = 2 then 3 else d + 2) n

/-- Factors are looked for so far. -/
def maxFactorSteps : Nat := 10000000

def factor (args : List Text) : Eval Nat :=
  withArguments [flag 'h' "exponents"] args fun a => do
    let words ← if a.operands.isEmpty then do
        match ← readText ['-'] with
        | .ok text => pure (joinFields text)
        | .error _ => pure []
      else pure a.operands
    forEach words fun word => do
      let digits := word.dropWhile (fun c => c = '+' ∨ isSpaceChar c)
      match decimal? digits with
      | none => blame (emphasized word ++ " is not a valid positive integer")
      | some n => do
        let factors := factorsFrom maxFactorSteps 2 n
        let shown := if a.has "exponents" then
            (groupEqual id (factors.map naturalText)).map fun group =>
              group.headD [] ++ (if group.length = 1 then [] else '^' :: naturalText group.length)
          else factors.map naturalText
        printLine (naturalText n ++ ':' :: shown.flatMap (' ' :: ·))
        pure true
where
  joinFields (text : Text) : List Text :=
    (text.splitOnP isSpaceChar).filter (fun (word : Text) => !word.isEmpty)

/-! ## shuf -/

/-- Some order of lines; the one that they have is as good as any other. -/
def shuf (args : List Text) : Eval Nat :=
  withArguments [flag 'e' "echo", setting 'i' "input-range", setting 'n' "head-count",
      setting 'o' "output", longFlag "random-source" .value, flag 'r' "repeat",
      flag 'z' "zero-terminated"] args fun a => do
    let ending := if a.has "zero-terminated" then '\x00' else '\n'
    let range := (a.value? "input-range").map fun text =>
      match text.splitOn '-' with
      | [low, high] =>
        match decimal? low, decimal? high with
        | some low, some high =>
          if high + 1 < low then none
          else some ((List.range (high + 1 - low)).map (fun i => naturalText (low + i)))
        | _, _ => none
      | _ => none
    match range, a.value? "head-count", a.operands with
    | some none, _, _ => do
      say ("invalid input range: " ++ emphasized ((a.value? "input-range").getD []))
      pure 1
    | some (some _), _, extra :: _ => extraOperand extra
    | range, count, operands => do
      if let some text := count then
        if (decimal? text).isNone then
          say ("invalid line count: " ++ emphasized text)
          return 1
      let lines : Except (Text × SystemError) (List Text) ← match range with
        | some lines => pure (.ok (lines.getD []))
        | none =>
          if a.has "echo" then pure (.ok operands)
          else do
            let name := operands.headD ['-']
            return ← match ← readText name with
            | .ok text => finish a ending (splitAtChar ending text)
            | .error e => do
              let _ ← blameInput name e
              pure 1
      match lines with
      | .ok lines => finish a ending lines
      | .error (name, e) => do
        let _ ← blameInput name e
        pure 1
where
  finish (a : Arguments) (ending : Char) (lines : List Text) : Eval Nat := do
    let count := (a.value? "head-count").bind decimal?
    let lines := match count with
      | some n => if a.has "repeat" then (List.range n).flatMap (fun i => (lines[i % max 1 lines.length]?).toList)
          else lines.take n
      | none => lines
    let text := lines.flatMap (· ++ [ending])
    match a.value? "output" with
    | none => do
      print text
      pure 0
    | some name =>
      match ← openFile .write name with
      | .error e => do
        let _ ← blameInput name e
        pure 1
      | .ok id => do
        let _ ← writeTo id text.toBytes
        pure 0

/-! ## tsort -/

/-- An item with those that have to come behind it, the latest first, and how many pairs ask for it
to come behind others. -/
structure Ranked where
  name : Text
  before : Nat := 0
  behind : List Text := []
  done : Bool := false

abbrev Ranking := List Ranked

namespace Ranking

def find? (r : Ranking) (name : Text) : Option Ranked := List.find? (fun item => item.name = name) r

def change (r : Ranking) (name : Text) (f : Ranked → Ranked) : Ranking :=
  r.map (fun item => if item.name = name then f item else item)

/-- Adds an item in the order of the names. -/
def add (r : Ranking) (name : Text) : Ranking :=
  if (r.find? name).isSome then r
  else r.takeWhile (fun item => textLe item.name name) ++ { name }
    :: r.dropWhile (fun item => textLe item.name name)

/-- Adds a pair. -/
def relate (r : Ranking) (first second : Text) : Ranking :=
  let r := (r.add first).add second
  if first = second then r
  else (r.change second (fun item => { item with before := item.before + 1 })).change first
    (fun item => { item with behind := second :: item.behind })

/-- Takes items that nothing has to come before, and puts behind them those that get free. -/
def takeFree : (fuel : Nat) → (queue : List Text) → Ranking → List Text × Ranking
  | 0, _, r => ([], r)
  | _, [], r => ([], r)
  | fuel + 1, name :: queue, r =>
    let behind := ((r.find? name).map (·.behind)).getD []
    let r := r.change name (fun item => { item with done := true })
    let (r, freed) := behind.foldl (fun ((r : Ranking), freed) next =>
      let r := r.change next (fun item => { item with before := item.before - 1 })
      if ((r.find? next).map (·.before)) = some 0 then (r, freed ++ [next]) else (r, freed))
      (r, ([] : List Text))
    let (names, r) := takeFree fuel (queue ++ freed) r
    (name :: names, r)

/-- A walk back along pairs: the items it came through, the latest first. -/
abbrev Way := List Text

/-- Looks at an item: the walk may go back to it, or come to where it was before, which closes a
loop; the item where it began does not count. Then the loop is told, from the latest item on, and
its last pair to be taken out. -/
def look (way : Way) (item : Ranked) : Way × Option (List Text × Text × Text) :=
  if item.before = 0 then (way, none)
  else
    match way with
    | [] => ([item.name], none)
    | latest :: _ =>
      if !item.behind.contains latest then (way, none)
      else if way.dropLast.contains item.name then
        let loop := way.takeWhile (· ≠ item.name) ++ [item.name]
        (way, some (loop, item.name, latest))
      else (item.name :: way, none)

/-- Looks at all items in turn, until a loop is found. -/
def findLoop : (fuel : Nat) → Way → Ranking → Option (List Text × Text × Text)
  | 0, _, _ => none
  | fuel + 1, way, r =>
    let (way, found) := r.foldl (fun (way, found) item =>
      match found with
      | some _ => (way, found)
      | none => look way item) (way, none)
    match found with
    | some loop => some loop
    | none => findLoop fuel way r

/-- Takes out one pair. -/
def dropPair (r : Ranking) (first second : Text) : Ranking :=
  (r.change second (fun item => { item with before := item.before - 1 })).change first
    (fun item => { item with behind := item.behind.erase second })

end Ranking

/-- The items in an order that agrees with all pairs; loops are told of and broken. -/
def rankAll (name : Text) : (fuel : Nat) → (ok : Bool) → Ranking → Eval Bool
  | 0, ok, _ => pure ok
  | fuel + 1, ok, r => do
    let free := (r.filter (fun item => item.before = 0 && !item.done)).map (·.name)
    let (names, r) := r.takeFree (r.length + 1) free
    names.forM printLine
    if r.all (·.done) then pure ok
    else do
      say (shown name ++ ": input contains a loop:")
      match Ranking.findLoop (r.length + 2) [] r with
      | none => pure false
      | some (loop, first, second) => do
        loop.forM (fun item => say item.toString)
        rankAll name fuel false (r.dropPair first second)

def pairsOf : List Text → List (Text × Text)
  | a :: b :: rest => (a, b) :: pairsOf rest
  | _ => []

def tsort (args : List Text) : Eval Nat :=
  withArguments [] args fun a => do
    match a.operands with
    | _ :: extra :: _ => extraOperand extra
    | operands => do
      let name := operands.headD ['-']
      match ← readText name with
      | .error e => do
        let _ ← blameInput name e
        pure 1
      | .ok text => do
        let words := (text.splitOnP isSpaceChar).filter (fun (word : Text) => !word.isEmpty)
        if words.length % 2 = 1 then do
          say (shown name ++ ": input contains an odd number of tokens")
          pure 1
        else do
          let r := (pairsOf words).foldl (fun (r : Ranking) (x, y) => r.relate x y) []
          let ok ← rankAll name (words.length + 1) true r
          pure (if ok then 0 else 1)

end Slipway.Tool
