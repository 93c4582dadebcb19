import Slipway.Records.Value

/-!
# Tokens of programs over records

A line break ends a statement unless something has to follow it. A closing brace ends the statement
before it. Whether a slash divides or opens an expression depends on the token before it.
-/

namespace Slipway.Records

open Shell (Text isNameStart isNameChar)

inductive Token
  | number (x : Float)
  | text (s : Text)
  | pattern (s : Text)
  | name (s : Text)
  /-- A name with a parenthesis right behind it. -/
  | called (s : Text)
  | keyword (word : String)
  | builtin (function : Builtin) (word : String)
  | sign (s : String)
  | newline
  | stop
  /-- What cannot be read, with the message about it. -/
  | wrong (message : String) (isPlain : Bool)

structure Lexeme where
  token : Token
  line : Nat
  /-- The end of a statement that only the brace behind it shows. -/
  isImplied : Bool := false

/-- The start and the end of the program, statements and so on. -/
def keywordNames : List String := [
  "BEGIN", "END", "function", "if", "else", "while", "for", "do", "in", "delete", "next", "nextfile",
  "exit", "return", "break", "continue", "print", "printf", "getline"]

def functionNames : List (String × Builtin) := [
  ("index", .index), ("substr", .substr), ("length", .length), ("split", .split),
  ("match", .search), ("sub", .sub), ("gsub", .gsub), ("sprintf", .sprintf), ("sin", .sin),
  ("cos", .cos), ("exp", .exp), ("log", .log), ("sqrt", .sqrt), ("int", .int), ("atan2", .atan2),
  ("rand", .rand), ("srand", .srand), ("close", .close), ("system", .system),
  ("toupper", .toupper), ("tolower", .tolower), ("fflush", .fflush), ("strftime", .strftime),
  ("mktime", .mktime), ("systime", .systime)]

/-- Signs, the longer ones first. -/
def signs : List String := [
  "&&", "||", "++", "--", "+=", "-=", "*=", "/=", "%=", "^=", "==", "<=", ">=", "!=", "!~", ">>",
  "\x7b", "\x7d", "(", ")", "[", "]", ";", ",", "+", "-", "*", "/", "%", "^", "=", "<", ">", "!",
  "~", "?", ":", "|", "$"]

/-- Whether a slash behind the token divides. -/
def Token.endsOperand : Token → Bool
  | number _ => true
  | text _ => true
  | pattern _ => true
  | name _ => true
  | keyword word => word = "getline"
  | sign s => ")]$".toList.any (fun c => s = String.singleton c) || s = "++" || s = "--"
  | _ => false

/-- How a token is named in a message. -/
def Token.shown : Token → String
  | number x => (Text.toString (numberText "%.6g".toList x 10))
  | text s => "\"" ++ Text.toString s ++ "\""
  | pattern s => "/" ++ Text.toString s ++ "/"
  | name s => Text.toString s
  | called s => Text.toString s
  | keyword word => word
  | builtin _ word => word
  | sign s => s
  | newline => "end of line"
  | stop => "end of file"
  | wrong message _ => message

/-- What was scanned: the tokens, the latest first, and what is open. -/
structure Scan where
  found : List Lexeme := []
  line : Nat := 1
  braces : Nat := 0
  parens : Nat := 0
  /-- Signs that close nothing: the number of tokens in front of each, and the message. -/
  complaints : List (Nat × Nat × String) := []

namespace Scan

def last (s : Scan) : Option Token := s.found.head?.map (·.token)

def add (s : Scan) (token : Token) : Scan := { s with found := ⟨token, s.line, false⟩ :: s.found }

def lastIsSign (s : Scan) (sign : String) : Bool :=
  match s.last with
  | some (.sign t) => t = sign
  | _ => false

/-- Whether a statement is at its end. -/
def atEnd (s : Scan) : Bool :=
  match s.last with
  | none => true
  | some .newline => true
  | some (.sign t) => t = ";" || t = "\x7d"
  | _ => false

/-- Whether a line break means nothing here. -/
def skipsBreak (s : Scan) : Bool :=
  match s.last with
  | some .newline => true
  | some (.sign t) => ["\x7b", "&&", "||", ",", ";", "\x7d"].contains t
  | some (.keyword word) => word = "else" || word = "do"
  | _ => false

end Scan

/-- The characters of a text constant up to its quote, and what follows it. -/
def readQuoted : Text → Option (Text × Text)
  | [] => none
  | '"' :: rest => some ([], rest)
  | '\n' :: _ => none
  | '\\' :: '\n' :: rest => readQuoted rest
  | '\\' :: c :: rest => (readQuoted rest).map (fun (s, rest) => ('\\' :: c :: s, rest))
  | c :: rest => (readQuoted rest).map (fun (s, rest) => (c :: s, rest))

/-- The characters of a regular expression up to its slash, and what follows it. A slash in a set
ends nothing. -/
def readSlashed : (inSet : Bool) → Text → Option (Text × Text)
  | _, [] => none
  | _, '\n' :: _ => none
  | inSet, '\\' :: '/' :: rest => (readSlashed inSet rest).map (fun (s, rest) => ('/' :: s, rest))
  | inSet, '\\' :: c :: rest =>
    (readSlashed inSet rest).map (fun (s, rest) => ('\\' :: c :: s, rest))
  | false, '/' :: rest => some ([], rest)
  | false, '[' :: '^' :: ']' :: rest =>
    (readSlashed true rest).map (fun (s, rest) => ('[' :: '^' :: ']' :: s, rest))
  | false, '[' :: ']' :: rest =>
    (readSlashed true rest).map (fun (s, rest) => ('[' :: ']' :: s, rest))
  | false, '[' :: rest => (readSlashed true rest).map (fun (s, rest) => ('[' :: s, rest))
  | true, ']' :: rest => (readSlashed false rest).map (fun (s, rest) => (']' :: s, rest))
  | inSet, c :: rest => (readSlashed inSet rest).map (fun (s, rest) => (c :: s, rest))

/-- The end of a text or an expression was not found on its line. -/
def runaway (kind : String) (opener : Char) (rest : Text) : Token :=
  .wrong ("runaway " ++ kind ++ " " ++ String.singleton opener
    ++ Text.toString ((rest.takeWhile (· ≠ '\n')).take 10) ++ " ...") false

def wordToken (word : Text) (rest : Text) : Token :=
  let s := String.ofList word
  if keywordNames.contains s then .keyword s
  else
    match functionNames.lookup s with
    | some f => .builtin f s
    | none => if rest.head? = some '(' then .called word else .name word

/-- Reads the tokens of a program. -/
def scan : (fuel : Nat) → Scan → Text → Scan
  | 0, s, _ => s
  | fuel + 1, s, text =>
    match text with
    | [] => s.add .stop
    | '\\' :: '\n' :: rest => scan fuel { s with line := s.line + 1 } rest
    | '\\' :: '\r' :: '\n' :: rest => scan fuel { s with line := s.line + 1 } rest
    | '\n' :: rest =>
      let t := if s.skipsBreak then s else s.add .newline
      scan fuel { t with line := s.line + 1 } rest
    | '#' :: rest => scan fuel s (rest.dropWhile (· ≠ '\n'))
    | '"' :: rest =>
      match readQuoted rest with
      | none => s.add (runaway "string constant" '"' rest)
      | some (body, behind) =>
        let breaks := ((rest.take (rest.length - behind.length)).filter (· = '\n')).length
        let t := s.add (.text (unescaped body))
        scan fuel { t with line := s.line + breaks } behind
    | c :: rest =>
      if c = ' ' ∨ c = '\t' ∨ c = '\r' ∨ c = '\x0c' ∨ c = '\x0b' then scan fuel s rest
      else if c = '/' ∧ !(s.last.map Token.endsOperand).getD false then
        match readSlashed false rest with
        | none => s.add (runaway "regular expression" '/' rest)
        | some (body, behind) => scan fuel (s.add (.pattern body)) behind
      else if isNameStart c then
        let word := text.takeWhile isNameChar
        let behind := text.drop word.length
        scan fuel (s.add (wordToken word behind)) behind
      else if isDigitChar c ∨ (c = '.' ∧ (rest.head?.map isDigitChar).getD false) then
        let (x, behind) := readDecimal text
        scan fuel (s.add (.number x)) behind
      else if c = '\x7d' then
        if s.braces = 0 then
          scan fuel { s with
            complaints := (s.found.length, s.line, "extra '\x7d'") :: s.complaints } rest
        else
          let t : Scan := if s.atEnd then s
            else { s with found := ⟨.sign ";", s.line, true⟩ :: s.found }
          let t : Scan := { t.add (.sign "\x7d") with braces := s.braces - 1 }
          -- A semicolon behind the last brace of an action belongs to it.
          let behind := rest.dropWhile (fun c => c = ' ' ∨ c = '\t')
          let rest := if t.braces = 0 ∧ behind.head? = some ';' then behind.drop 1 else rest
          scan fuel t rest
      else if c = ')' ∧ s.parens = 0 then
        scan fuel { s with complaints := (s.found.length, s.line, "extra ')'") :: s.complaints } rest
      else
        match signs.find? (fun sign => sign.toList.isPrefixOf text) with
        | none =>
          s.add (.wrong ("unexpected character '" ++ Text.toString [c] ++ "'") true)
        | some sign =>
          let t := s.add (.sign sign)
          let t : Scan := { t with
            braces := if c = '\x7b' then t.braces + 1 else t.braces
            parens := if sign = "(" then t.parens + 1 else if sign = ")" then t.parens - 1
              else t.parens }
          scan fuel t (text.drop sign.length)
where
  /-- A decimal number and what follows it. -/
  readDecimal (text : Text) : Float × Text :=
    let whole := text.takeWhile isDigitChar
    let rest := text.drop whole.length
    let hasX : Bool := (rest.head?.map (fun c => c == 'x' || c == 'X')).getD false
    if hasX then (leadingNumber whole, rest)
    else
      match Binary64.read? text with
      | some (x, rest) => (ofExact x, rest)
      | none => (0, text.drop 1)

end Slipway.Records
