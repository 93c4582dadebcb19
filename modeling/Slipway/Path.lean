/-!
# Paths

A path is the text in which it was given. Joining and taking the parent work on the text, no file
system is asked.
-/

namespace Slipway

structure Path where
  text : String
  deriving DecidableEq, Inhabited

namespace Path

def separator : Char := '/'

def isAbsolute (p : Path) : Bool := p.text.toList.head? == some separator

/-- An absolute right side replaces the left one. A separator is added unless the left side is
empty or ends in one. -/
def join (p : Path) (right : String) : Path :=
  if Path.isAbsolute ⟨right⟩ then ⟨right⟩
  else if p.text.isEmpty || p.text.toList.getLast? == some separator then ⟨p.text ++ right⟩
  else ⟨p.text ++ "/" ++ right⟩

/-- The names between the separators, empty ones included. -/
def split : (chars : List Char) → List (List Char)
  | [] => [[]]
  | c :: rest =>
    if c = separator then [] :: split rest
    else match split rest with
      | [] => [[c]]
      | first :: others => (c :: first) :: others

/-- The names on the way that the path describes; `.` and empty names lead nowhere. -/
def names (p : Path) : List String :=
  ((split p.text.toList).filter (fun n => n ≠ [] ∧ n ≠ ['.'])).map String.ofList

/-- Whether the path can only mean a directory since it ends in a separator. -/
def endsInSeparator (p : Path) : Bool := p.text.toList.getLast? == some separator

/-- The start of a path that is no name: the root, or a leading `.`. -/
def start (p : Path) : List Char :=
  match split p.text.toList with
  | [] :: _ :: _ => [separator]
  | ['.'] :: _ => ['.']
  | _ => []

/-- The names behind `start`, without the ones at the end that lead nowhere; the latest first. -/
def backwards (p : Path) : List (List Char) :=
  (split (p.text.toList.drop p.start.length)).reverse.dropWhile (fun n => n = [] ∨ n = ['.'])

/-- The path of the directory that the path's last name is in. -/
def parent? (p : Path) : Option Path :=
  match p.backwards with
  | [] => if p.start = ['.'] then some ⟨""⟩ else none
  | _ :: before =>
    let kept := before.dropWhile (fun n => n = [] ∨ n = ['.'])
    some ⟨String.ofList (p.start ++ (List.intercalate [separator] kept.reverse))⟩

/-- The last name, unless the path ends in `..`. -/
def fileName? (p : Path) : Option String :=
  match p.backwards with
  | [] => none
  | last :: _ => if last = ['.', '.'] then none else some (String.ofList last)

/-- The path of a neighbour called `name`. -/
def withFileName (p : Path) (name : String) : Path :=
  match p.fileName?, p.parent? with
  | some _, some dir => dir.join name
  | _, _ => p.join name

end Path

end Slipway
