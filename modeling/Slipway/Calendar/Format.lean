import Slipway.Calendar.Basic
import Slipway.Text.Basic

/-!
# Formats of dates

Texts with a date in them: a percent sign and a letter stand for a part of it. All times are those
of the zone that others are measured from.
-/

namespace Slipway

namespace Moment

/-- A number with something in front of it up to a width. -/
def padded (fill : Char) (width : Nat) (n : Nat) : List Char :=
  let digits := (toString n).toList
  List.replicate (width - digits.length) fill ++ digits

/-- A number that may be negative. -/
def paddedInt (fill : Char) (width : Nat) (n : Int) : List Char :=
  if n < 0 then '-' :: padded fill (width - 1) n.natAbs else padded fill width n.toNat

def twelveHour (hour : Nat) : Nat := if hour % 12 = 0 then 12 else hour % 12

/-- A part of a moment: a number with its usual fill and width, or a text. -/
inductive Part
  | number (fill : Char) (width : Nat) (n : Int)
  | text (text : String)

/-- What a letter stands for, unless it stands for several parts. -/
def part? (m : Moment) (nanoseconds : Nat) (c : Char) : Option Part :=
  let d := m.date
  match c with
  | 'Y' => some (.number '0' 1 d.year)
  | 'C' => some (.number '0' 2 (d.year.fdiv 100))
  | 'y' => some (.number '0' 2 (d.year.fmod 100))
  | 'm' => some (.number '0' 2 d.month)
  | 'd' => some (.number '0' 2 d.day)
  | 'e' => some (.number ' ' 2 d.day)
  | 'H' => some (.number '0' 2 m.hour)
  | 'k' => some (.number ' ' 2 m.hour)
  | 'I' => some (.number '0' 2 (twelveHour m.hour))
  | 'l' => some (.number ' ' 2 (twelveHour m.hour))
  | 'M' => some (.number '0' 2 m.minute)
  | 'S' => some (.number '0' 2 m.second)
  | 's' => some (.number '0' 1 m.toSeconds)
  | 'N' => some (.number '0' 9 nanoseconds)
  | 'j' => some (.number '0' 3 (d.dayOfYear + 1))
  | 'q' => some (.number '0' 1 ((d.month + 2) / 3))
  | 'u' => some (.number '0' 1 (if d.weekday = 0 then 7 else d.weekday))
  | 'w' => some (.number '0' 1 d.weekday)
  | 'U' => some (.number '0' 2 ((d.dayOfYear + 7 - d.weekday) / 7))
  | 'W' => some (.number '0' 2 ((d.dayOfYear + 7 - (d.weekday + 6) % 7) / 7))
  | 'V' => some (.number '0' 2 d.week.2)
  | 'G' => some (.number '0' 1 d.week.1)
  | 'g' => some (.number '0' 2 (d.week.1.fmod 100))
  | 'a' => some (.text (String.ofList ((weekdayNames.getD d.weekday "").toList.take 3)))
  | 'A' => some (.text (weekdayNames.getD d.weekday ""))
  | 'b' => some (.text (String.ofList ((monthNames.getD (d.month - 1) "").toList.take 3)))
  | 'h' => some (.text (String.ofList ((monthNames.getD (d.month - 1) "").toList.take 3)))
  | 'B' => some (.text (monthNames.getD (d.month - 1) ""))
  | 'p' => some (.text (if m.hour < 12 then "AM" else "PM"))
  | 'P' => some (.text (if m.hour < 12 then "am" else "pm"))
  | 'Z' => some (.text "UTC")
  | 'z' => some (.text "+0000")
  | 'n' => some (.text "\n")
  | 't' => some (.text "\t")
  | '%' => some (.text "%")
  | _ => none

/-- Formats that a letter stands for. -/
def group? (c : Char) : Option String :=
  match c with
  | 'F' => some "%Y-%m-%d"
  | 'D' => some "%m/%d/%y"
  | 'x' => some "%m/%d/%y"
  | 'T' => some "%H:%M:%S"
  | 'X' => some "%H:%M:%S"
  | 'R' => some "%H:%M"
  | 'r' => some "%I:%M:%S %p"
  | 'c' => some "%a %b %e %H:%M:%S %Y"
  | _ => none

/-- A part as flags between the percent sign and the letter ask for it. -/
def renderPart (flags : List Char) (width : Option Nat) (c : Char) : Part → List Char
  | .number fill usual n =>
    let fill := match flags.find? (fun c => c = '-' ∨ c = '_' ∨ c = '0') with
      | some '_' => ' '
      | some '0' => '0'
      | _ => fill
    if c = 'N' then
      (paddedInt '0' 9 n).take (if flags.contains '-' then 9 else width.getD 9)
    else if flags.contains '-' then paddedInt fill 1 n
    else paddedInt fill (width.getD usual) n
  | .text text =>
    let text := if flags.contains '^' then text.toList.map Char.toUpper else text.toList
    let fill := if flags.contains '0' then '0' else ' '
    List.replicate (width.getD 0 - text.length) fill ++ text

/-- Fills in a format. Formats inside it are filled in at most `depth` deep. -/
def render (m : Moment) (nanoseconds : Nat) : (depth fuel : Nat) → List Char → List Char
  | _, 0, _ => []
  | depth, fuel + 1, text =>
    match text with
    | [] => []
    | '%' :: rest =>
      let flags := rest.takeWhile (fun c => "-_0^#".toList.contains c)
      let rest := rest.drop flags.length
      let digits := rest.takeWhile Char.isDigit
      let rest := rest.drop digits.length
      let width := if digits.isEmpty then none else (String.ofList digits).toNat?
      match rest with
      | [] => '%' :: flags ++ digits
      | ':' :: 'z' :: rest => "+00:00".toList ++ render m nanoseconds depth fuel rest
      | c :: rest =>
        let shown := match group? c, depth with
          | some group, depth + 1 => render m nanoseconds depth fuel group.toList
          | _, _ =>
            match m.part? nanoseconds c with
            | some part => renderPart flags width c part
            | none => '%' :: flags ++ digits ++ [c]
        shown ++ render m nanoseconds depth fuel rest
    | c :: rest => c :: render m nanoseconds depth fuel rest

def format (m : Moment) (nanoseconds : Nat) (text : List Char) : List Char :=
  m.render nanoseconds 2 (text.length + 40) text

end Moment

end Slipway
