import StatusWait.Json.Text

/-!
# The tokens of JSON

A JSON text is a sequence of tokens with white space between them: six signs, three
words, numbers and strings.

## The model

A scanner goes through the text one character at a time. Its `Mode` says what it is in
the middle of; `Mode.step` says what one more character does and which tokens are
complete after it. A character that fits nowhere ends the scan with the token `junk`,
which no value begins, contains or ends with; so a text has a list of tokens whatever
it holds, and what follows the first value can be told from the value.
-/

namespace StatusWait.Json

/-- A token. -/
inductive Token
  | openObject
  | closeObject
  | openArray
  | closeArray
  | colon
  | comma
  | null
  | bool (b : Bool)
  /-- A number, as it is written. -/
  | number (literal : List Char)
  | string (text : Text)
  /-- Something that is no token. -/
  | junk
deriving DecidableEq, Repr

/-- How far a number has been read. -/
inductive NumberPart
  /-- A minus sign: a digit has to follow. -/
  | sign
  /-- A leading zero: no digit may follow. -/
  | zero
  | whole
  /-- The point: a digit has to follow. -/
  | point
  | fraction
  /-- The mark of the exponent: a sign or a digit has to follow. -/
  | exponent
  /-- The sign of the exponent: a digit has to follow. -/
  | exponentSign
  | exponentDigits
deriving DecidableEq, Repr

namespace NumberPart

/-- The number may end here. -/
def isComplete : NumberPart → Bool
  | zero | whole | fraction | exponentDigits => true
  | sign | point | exponent | exponentSign => false

/-- What a character makes of a number read so far; none if it is not part of it. -/
def next (p : NumberPart) (c : Char) : Option NumberPart :=
  match p with
  | sign => if c = '0' then some zero else if c.isDigit then some whole else none
  | zero => afterWhole c
  | whole => if c.isDigit then some whole else afterWhole c
  | point => if c.isDigit then some fraction else none
  | fraction => if c.isDigit then some fraction else mark c
  | exponent =>
      if c = '+' || c = '-' then some exponentSign else if c.isDigit then some exponentDigits else none
  | exponentSign => if c.isDigit then some exponentDigits else none
  | exponentDigits => if c.isDigit then some exponentDigits else none
where
  /-- The mark of an exponent. -/
  mark (c : Char) : Option NumberPart := if c = 'e' || c = 'E' then some exponent else none
  /-- What may follow the digits before the point. -/
  afterWhole (c : Char) : Option NumberPart := if c = '.' then some point else mark c

end NumberPart

/-- What the scanner is in the middle of. Everything read so far is kept last first. -/
inductive Mode
  /-- Nothing: between two tokens. -/
  | between
  | word (read : List Char)
  | number (part : NumberPart) (read : List Char)
  | string (read : Text)
  /-- A string, right behind a backslash. -/
  | escape (read : Text)
  /-- A string, inside the four digits of a unit: `left` of them are missing. -/
  | unit (read : Text) (left value : Nat)
deriving DecidableEq, Repr

/-- The space, the tabulator, the line feed and the carriage return. -/
def isBlank (c : Char) : Bool := c = ' ' || c = '\t' || c = '\n' || c = '\r'

/-- The value of a hexadecimal digit of either case. -/
def hexValue? (c : Char) : Option Nat :=
  if c.isDigit then some (c.toNat - '0'.toNat)
  else if 'a' ≤ c && c ≤ 'f' then some (c.toNat - 'a'.toNat + 10)
  else if 'A' ≤ c && c ≤ 'F' then some (c.toNat - 'A'.toNat + 10)
  else none

/-- The character that a letter behind a backslash stands for. -/
def escaped? (c : Char) : Option Char :=
  match c with
  | '"' => some '"'
  | '\\' => some '\\'
  | '/' => some '/'
  | 'b' => some '\x08'
  | 'f' => some '\x0C'
  | 'n' => some '\n'
  | 'r' => some '\r'
  | 't' => some '\t'
  | _ => none

/-- The sign that a character is. -/
def sign? (c : Char) : Option Token :=
  match c with
  | '\x7B' => some .openObject
  | '\x7D' => some .closeObject
  | '[' => some .openArray
  | ']' => some .closeArray
  | ':' => some .colon
  | ',' => some .comma
  | _ => none

/-- The token that a word is. -/
def word (letters : List Char) : Token :=
  if letters = ['n', 'u', 'l', 'l'] then .null
  else if letters = ['t', 'r', 'u', 'e'] then .bool true
  else if letters = ['f', 'a', 'l', 's', 'e'] then .bool false
  else .junk

/-- A character between two tokens. -/
def Mode.start (c : Char) : Option (Mode × List Token) :=
  if isBlank c then some (.between, [])
  else match sign? c with
    | some t => some (.between, [t])
    | none =>
      if c = '"' then some (.string [], [])
      else if c = '-' then some (.number .sign [c], [])
      else if c = '0' then some (.number .zero [c], [])
      else if c.isDigit then some (.number .whole [c], [])
      else if c.isLower then some (.word [c], [])
      else none

/-- What one character does, and the tokens that are complete after it; none if the
character fits nowhere. -/
def Mode.step (m : Mode) (c : Char) : Option (Mode × List Token) :=
  match m with
  | .between => start c
  | .word read =>
      if c.isLower then some (.word (c :: read), [])
      else (start c).map fun (m', ts) => (m', Json.word read.reverse :: ts)
  | .number part read =>
      match part.next c with
      | some part' => some (.number part' (c :: read), [])
      | none =>
        if part.isComplete then (start c).map fun (m', ts) => (m', Token.number read.reverse :: ts)
        else none
  | .string read =>
      if c = '"' then some (.between, [.string read.reverse])
      else if c = '\\' then some (.escape read, [])
      else if c.toNat < 0x20 then none
      else some (.string (.char c :: read), [])
  | .escape read =>
      if c = 'u' then some (.unit read 4 0, [])
      else (escaped? c).map fun d => (.string (.char d :: read), [])
  | .unit read left value =>
      (hexValue? c).map fun d =>
        let value' := value * 16 + d
        if left ≤ 1 then (.string (.unit value' :: read), []) else (.unit read (left - 1) value', [])

/-- The tokens that are complete when the text ends. -/
def Mode.finish : Mode → List Token
  | .between => []
  | .word read => [Json.word read.reverse]
  | .number part read => if part.isComplete then [.number read.reverse] else [.junk]
  | .string _ | .escape _ | .unit _ _ _ => [.junk]

/-- The tokens of a text, read on from a mode. -/
def scan (m : Mode) : List Char → List Token
  | [] => m.finish
  | c :: cs =>
      match m.step c with
      | some (m', ts) => ts ++ scan m' cs
      | none => [.junk]

/-- The tokens of a text. -/
def tokens (text : List Char) : List Token := scan .between text

end StatusWait.Json
