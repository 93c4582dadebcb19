import Slipway.Calendar.Basic
import Slipway.Text.Characters

/-!
# Dates as people write them

A date is read as a list of items in any order: a day, a time of day, a zone, a weekday, and steps
forward or back from there. What is not said is taken from the present moment.
-/

namespace Slipway

namespace DateReading

/-- What was read so far. -/
structure Items where
  date : Option Date := none
  /-- Hour, minute and second. -/
  time : Option (Nat × Nat × Nat) := none
  nanoseconds : Nat := 0
  /-- Seconds by which the zone is ahead. -/
  zone : Option Int := none
  /-- A weekday, and how many weeks on. -/
  weekday : Option (Int × Nat) := none
  /-- Whether steps were named, even empty ones. -/
  hasSteps : Bool := false
  months : Int := 0
  days : Int := 0
  seconds : Int := 0
  /-- Seconds since the start of 1970. -/
  absolute : Option Int := none

/-- Units of time in months, days and seconds. -/
def unit? (word : String) : Option (Int × Int × Int) :=
  match word with
  | "year" => some (12, 0, 0)
  | "month" => some (1, 0, 0)
  | "fortnight" => some (0, 14, 0)
  | "week" => some (0, 7, 0)
  | "day" => some (0, 1, 0)
  | "hour" => some (0, 0, 3600)
  | "minute" => some (0, 0, 60)
  | "min" => some (0, 0, 60)
  | "second" => some (0, 0, 1)
  | "sec" => some (0, 0, 1)
  | _ => none

/-- A unit may stand in the plural. -/
def unitOf? (word : String) : Option (Int × Int × Int) :=
  (unit? word).orElse fun _ =>
    if word.toList.getLast? = some 's' then unit? (String.ofList word.toList.dropLast) else none

/-- Words that stand for a number of days or weeks. -/
def ordinal? (word : String) : Option Int :=
  match word with
  | "last" => some (-1)
  | "this" => some 0
  | "next" => some 1
  | "first" => some 1
  | "third" => some 3
  | "fourth" => some 4
  | "fifth" => some 5
  | "sixth" => some 6
  | "seventh" => some 7
  | "eighth" => some 8
  | "ninth" => some 9
  | "tenth" => some 10
  | "eleventh" => some 11
  | "twelfth" => some 12
  | _ => none

/-- Days that are named as seen from today. -/
def nearDay? (word : String) : Option Int :=
  match word with
  | "yesterday" => some (-1)
  | "today" => some 0
  | "now" => some 0
  | "tomorrow" => some 1
  | _ => none

/-- Hours by which zones are ahead. -/
def zone? (word : String) : Option Int :=
  [("utc", 0), ("gmt", 0), ("ut", 0), ("z", 0), ("wet", 0), ("est", -5), ("edt", -4), ("cst", -6),
    ("cdt", -5), ("mst", -7), ("mdt", -6), ("pst", -8), ("pdt", -7), ("cet", 1), ("cest", 2),
    ("met", 1), ("eet", 2), ("eest", 3), ("bst", 1), ("west", 1), ("msk", 3), ("ist", 5),
    ("jst", 9)].lookup word

/-- The number of a name that a word is, in full or in its first three letters. -/
def nameIndex? (names : List String) (word : String) : Option Nat :=
  names.findIdx? (fun name =>
    let name := name.toList.map Char.toLower
    String.ofList name = word || String.ofList (name.take 3) = word
      || (name.take 4 = "sept".toList && word = "sept"))

/-- A month that is named, from 1 on. -/
def month? (word : String) : Option Nat := (nameIndex? monthNames word).map (· + 1)

def weekday? (word : String) : Option Nat :=
  match word with
  | "tues" => some 2
  | "wednes" => some 3
  | "thur" => some 4
  | "thurs" => some 4
  | _ => nameIndex? weekdayNames word

/-! ## Pieces of the text -/

abbrev Chars := List Char

def skipBlanks (text : Chars) : Chars := text.dropWhile (fun c => isSpaceChar c || c = ',')

def spanDigits (text : Chars) : Chars × Chars := (text.takeWhile isDigitChar, text.dropWhile isDigitChar)

def natOf (digits : Chars) : Nat := digits.foldl (fun n c => n * 10 + (c.toNat - '0'.toNat)) 0

/-- A word in small letters, without dots. -/
def spanWord (text : Chars) : String × Chars :=
  let word := text.takeWhile (fun c => isLetterChar c || c = '.')
  (String.ofList ((word.filter (· ≠ '.')).map Char.toLower), text.drop word.length)

/-- A part of a second behind a point, in nanoseconds. -/
def readFraction (text : Chars) : Nat × Chars :=
  match text with
  | '.' :: rest =>
    let (digits, rest') := spanDigits rest
    if digits.isEmpty then (0, text)
    else (natOf ((digits ++ List.replicate 9 '0').take 9), rest')
  | _ => (0, text)

/-- Years of two digits are near to the present. -/
def fullYear (digits : Chars) : Int :=
  let n := natOf digits
  if digits.length = 2 then (if n < 69 then 2000 + n else 1900 + n) else n

/-- A date of which all parts are there, unless there is one already. -/
def Items.setDate (i : Items) (year : Int) (month day : Nat) : Option Items :=
  if i.date.isSome then none else some { i with date := some ⟨year, month, day⟩ }

def Items.setTime (i : Items) (hour minute second : Nat) : Option Items :=
  if i.time.isSome ∨ 23 < hour ∨ 59 < minute ∨ 60 < second then none
  else some { i with time := some (hour, minute, second) }

def Items.step (i : Items) (count : Int) (unit : Int × Int × Int) : Items :=
  { i with
    hasSteps := true
    months := i.months + count * unit.1
    days := i.days + count * unit.2.1
    seconds := i.seconds + count * unit.2.2 }

/-- A step forward, or back with `ago` behind it. -/
def readStep (i : Items) (count : Int) (unit : Int × Int × Int) (rest : Chars) : Items × Chars :=
  let (word, behind) := spanWord (skipBlanks rest)
  if word = "ago" then (i.step (-count) unit, behind) else (i.step count unit, rest)

/-- An hour of twelve. -/
def halfDay? (hour : Nat) (word : String) : Option Nat :=
  if hour = 0 ∨ 12 < hour then none
  else
    match word with
    | "am" => some (hour % 12)
    | "pm" => some (hour % 12 + 12)
    | _ => none

/-- A zone by the hours and minutes that it is ahead. -/
def readOffset? (text : Chars) : Option (Int × Chars) :=
  match text with
  | sign :: rest =>
    let (digits, rest) := spanDigits rest
    if (sign ≠ '+' ∧ sign ≠ '-') ∨ digits.isEmpty ∨ 4 < digits.length then none
    else
      let (hours, minutes, rest) := match rest with
        | ':' :: more =>
          let (minutes, rest) := spanDigits more
          (natOf digits, natOf minutes, rest)
        | rest =>
          if digits.length ≤ 2 then (natOf digits, 0, rest)
          else (natOf digits / 100, natOf digits % 100, rest)
      let seconds : Int := (hours * 3600 + minutes * 60 : Nat)
      if 24 < hours ∨ 59 < minutes then none
      else some (if sign = '-' then -seconds else seconds, rest)
  | [] => none

/-- Whether a unit stands next, so that a number in front of it is a step. -/
def unitNext? (text : Chars) : Option ((Int × Int × Int) × Chars) :=
  let (word, rest) := spanWord (skipBlanks text)
  (unitOf? word).map (·, rest)

/-- What follows a time of day: the half of the day, or a zone. -/
def finishTime (i : Items) (hour minute second : Nat) (rest : Chars) : Option (Items × Chars) := do
  let (word, behind) := spanWord (skipBlanks rest)
  match halfDay? hour word with
  | some hour => return (← i.setTime hour minute second, behind)
  | none =>
    let i ← i.setTime hour minute second
    let next := skipBlanks rest
    match readOffset? next with
    | some (zone, behind) =>
      if (unitNext? behind).isSome then some (i, rest) else some ({ i with zone := some zone }, behind)
    | none => some (i, rest)

/-- A time of day behind its hour. -/
def readTime (i : Items) (hour : Chars) (rest : Chars) : Option (Items × Chars) :=
  let (minute, rest) := spanDigits rest
  if hour.length > 2 ∨ minute.isEmpty then none
  else
    match rest with
    | ':' :: more =>
      let (second, rest) := spanDigits more
      let (nanoseconds, rest) := readFraction rest
      if second.isEmpty then none
      else finishTime { i with nanoseconds } (natOf hour) (natOf minute) (natOf second) rest
    | rest => finishTime i (natOf hour) (natOf minute) 0 rest

/-- The year behind a month and a day, if there is one. -/
def readYear (rest : Chars) (present : Int) : Int × Chars :=
  let (digits, behind) := spanDigits (skipBlanks rest)
  if digits.isEmpty ∨ behind.head? = some ':' ∨ digits.length < 4 then (present, rest)
  else (fullYear digits, behind)

/-- An item that begins with digits. -/
def readNumber (i : Items) (present : Date) (digits rest : Chars) : Option (Items × Chars) :=
  match rest with
  | ':' :: rest => readTime i digits rest
  | '-' :: rest =>
    let (second, behind) := spanDigits rest
    if second.isEmpty then
      let (word, behind) := spanWord rest
      match month? word, behind with
      | some month, '-' :: behind =>
        let (year, behind) := spanDigits behind
        (i.setDate (fullYear year) month (natOf digits)).map (·, behind)
      | _, _ => none
    else
      match behind with
      | '-' :: behind =>
        let (day, behind) := spanDigits behind
        if day.isEmpty then none
        else (i.setDate (fullYear digits) (natOf second) (natOf day)).map (·, behind)
      | _ => none
  | '/' :: rest =>
    let (second, behind) := spanDigits rest
    match behind with
    | '/' :: behind =>
      let (third, behind) := spanDigits behind
      if digits.length ≥ 4 then
        (i.setDate (natOf digits) (natOf second) (natOf third)).map (·, behind)
      else (i.setDate (fullYear third) (natOf digits) (natOf second)).map (·, behind)
    | behind => (i.setDate present.year (natOf digits) (natOf second)).map (·, behind)
  | rest =>
    let (word, behind) := spanWord (skipBlanks rest)
    match unitOf? word, month? word, halfDay? (natOf digits) word with
    | some unit, _, _ => some (readStep i (natOf digits) unit behind)
    | none, some month, _ =>
      let (year, behind) := readYear behind present.year
      (i.setDate year month (natOf digits)).map (·, behind)
    | none, none, some hour => (i.setTime hour 0 0).map (·, behind)
    | none, none, none =>
      if digits.length = 8 ∧ i.date.isNone then
        (i.setDate (natOf (digits.take 4)) (natOf ((digits.drop 4).take 2))
          (natOf (digits.drop 6))).map (·, rest)
      else if digits.length ≤ 2 then (i.setTime (natOf digits) 0 0).map (·, rest)
      else if digits.length = 4 then
        (i.setTime (natOf digits / 100) (natOf digits % 100) 0).map (·, rest)
      else none

/-- An item that begins with a word. -/
def readWord (i : Items) (present : Date) (word : String) (rest : Chars) : Option (Items × Chars) :=
  match nearDay? word, month? word, weekday? word, unitOf? word, ordinal? word with
  | some days, _, _, _, _ => some (i.step days (0, 1, 0), rest)
  | _, some month, _, _, _ =>
    let (day, behind) := spanDigits (skipBlanks rest)
    if day.isEmpty ∨ 2 < day.length then none
    else
      let (year, behind) := readYear behind present.year
      (i.setDate year month (natOf day)).map (·, behind)
  | _, _, some day, _, _ =>
    if i.weekday.isSome then none else some ({ i with weekday := some (0, day) }, rest)
  | _, _, _, some unit, _ => some (readStep i 1 unit rest)
  | _, _, _, _, some count =>
    let (word, behind) := spanWord (skipBlanks rest)
    match weekday? word, unitOf? word with
    | some day, _ => some ({ i with weekday := some (count, day) }, behind)
    | none, some unit => some (readStep i count unit behind)
    | none, none => none
  | _, _, _, _, _ =>
    if word = "t" ∧ i.date.isSome ∧ (rest.head?.map isDigitChar).getD false then some (i, rest)
    else
      match zone? word with
      | some hours => if i.zone.isSome then none else some ({ i with zone := some (hours * 3600) }, rest)
      | none => none

/-- Seconds since the start of 1970 behind their sign. -/
def readAbsolute (i : Items) (text : Chars) : Option (Items × Chars) :=
  let isNegative := text.head? = some '-'
  let (digits, rest) := spanDigits (if isNegative ∨ text.head? = some '+' then text.drop 1 else text)
  let (nanoseconds, rest) := readFraction rest
  if digits.isEmpty then none
  else
    let n : Int := natOf digits
    some ({ i with absolute := some (if isNegative then -n else n), nanoseconds }, rest)

/-- The next item. -/
def readItem (i : Items) (present : Date) (text : Chars) : Option (Items × Chars) :=
  match text with
  | [] => none
  | '@' :: rest => readAbsolute i rest
  | c :: rest =>
    if isDigitChar c then
      let (digits, rest) := spanDigits text
      readNumber i present digits rest
    else if c = '+' ∨ c = '-' then
      let (digits, behind) := spanDigits (skipBlanks rest)
      match unitNext? behind with
      | some (unit, behind) =>
        let count : Int := if digits.isEmpty then 1 else natOf digits
        some (readStep i (if c = '-' then -count else count) unit behind)
      | none =>
        if i.time.isSome ∧ i.zone.isNone then
          (readOffset? text).map (fun (zone, rest) => ({ i with zone := some zone }, rest))
        else none
    else if isLetterChar c then
      let (word, rest) := spanWord text
      readWord i present word rest
    else none

def readItems (present : Date) : (fuel : Nat) → Items → Chars → Option Items
  | 0, _, _ => none
  | fuel + 1, i, text =>
    match skipBlanks text with
    | [] => some i
    | text => (readItem i present text).bind (fun (i, rest) => readItems present fuel i rest)

/-! ## The moment that is meant -/

/-- A date whose month lies outside the year, moved into the right year. -/
def normalMonth (year month : Int) : Int × Nat :=
  let n := year * 12 + (month - 1)
  (n.fdiv 12, (n.fmod 12).toNat + 1)

/-- Whether there is a day of that number in the month. -/
def isDay (d : Date) : Bool :=
  1 ≤ d.month && d.month ≤ 12 && 1 ≤ d.day && Date.ofDays d.toDays = d

/-- The seconds since the start of 1970 that the items mean. -/
def Items.toSeconds? (i : Items) (now : Int) : Option Int :=
  match i.absolute with
  | some seconds =>
    if i.date.isSome ∨ i.time.isSome then none else some (seconds + i.days * 86400 + i.seconds)
  | none =>
    let present := Moment.ofSeconds (now + i.zone.getD 0)
    let date := i.date.getD present.date
    if !isDay date then none
    else
      let (hour, minute, second) := match i.time with
        | some time => time
        | none =>
          if i.hasSteps ∧ i.date.isNone ∧ i.weekday.isNone then
            (present.hour, present.minute, present.second)
          else (0, 0, 0)
      let forward : Int := match i.weekday, i.date with
        | some (count, day), none =>
          ((day + 7 - date.weekday) % 7 : Nat)
            + 7 * (count - if 0 < count ∧ date.weekday ≠ day then 1 else 0)
        | _, _ => 0
      let (year, month) := normalMonth date.year (date.month + i.months)
      let days := Date.toDays ⟨year, month, 1⟩ + (date.day - 1) + forward + i.days
      some (days * 86400 + hour * 3600 + minute * 60 + second + i.seconds - i.zone.getD 0)

end DateReading

/-- The seconds since the start of 1970 that a text means, and nanoseconds on top of them. -/
def readDate? (now : Int) (text : List Char) : Option (Int × Nat) := do
  let i ← DateReading.readItems (Moment.ofSeconds now).date (text.length + 1) {} text
  return (← i.toSeconds? now, i.nanoseconds)

/-- A date in digits: month, day, hour and minute, with a year in front and seconds behind. -/
def readStamp? (now : Int) (text : List Char) : Option Int :=
  let digits := text.takeWhile isDigitChar
  let second := match text.drop digits.length with
    | [] => some 0
    | ['.', a, b] => if isDigitChar a ∧ isDigitChar b then some (DateReading.natOf [a, b]) else none
    | _ => none
  let year? : Option Int := match digits.length with
    | 8 => some (Moment.ofSeconds now).date.year
    | 10 => some (DateReading.fullYear (digits.take 2))
    | 12 => some (DateReading.natOf (digits.take 4))
    | _ => none
  let two (n : Nat) : Nat := DateReading.natOf ((digits.drop (digits.length - n)).take 2)
  match year?, second with
  | some year, some second =>
    let date : Date := ⟨year, two 8, two 6⟩
    if !DateReading.isDay date ∨ 23 < two 4 ∨ 59 < two 2 ∨ 60 < second then none
    else some (Moment.toSeconds ⟨date, two 4, two 2, second⟩)
  | _, _ => none

end Slipway
