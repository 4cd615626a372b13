import StatusWait.Json.Token

/-!
# JSON values

The tree of a JSON text, and its compact spelling.

## The model

An object is its members in the order they are written, repeated keys included;
numbers are kept as they are written, since nothing here computes with them. `render`
writes a value without white space. Of the characters in a string it escapes the
quotation mark, the backslash and those below U+0020, the latter by a short escape
where there is one and as `\u00xx` with small digits where there is none.
-/

namespace StatusWait.Json

/-- A JSON value. -/
inductive Value
  | null
  | bool (b : Bool)
  /-- A number, as it is written. -/
  | number (literal : List Char)
  | string (text : Text)
  | array (items : List Value)
  | object (members : List (Text × Value))
deriving Repr

/-- A string, or `null` where there is none. -/
def Value.nullable : Option String → Value
  | some s => .string (.ofString s)
  | none => .null

/-! ### The compact spelling -/

/-- A hexadecimal digit, a small letter from ten on. -/
def hexDigit (d : Nat) : Char :=
  if d < 10 then Char.ofNat ('0'.toNat + d) else Char.ofNat ('a'.toNat + (d - 10))

/-- A unit as four digits behind `\u`. -/
def renderUnit (u : Nat) : List Char :=
  ['\\', 'u', hexDigit (u / 4096 % 16), hexDigit (u / 256 % 16), hexDigit (u / 16 % 16), hexDigit (u % 16)]

/-- A character as it stands in a string. -/
def renderChar (c : Char) : List Char :=
  match c with
  | '"' => ['\\', '"']
  | '\\' => ['\\', '\\']
  | '\x08' => ['\\', 'b']
  | '\x0C' => ['\\', 'f']
  | '\n' => ['\\', 'n']
  | '\r' => ['\\', 'r']
  | '\t' => ['\\', 't']
  | _ => if c.toNat < 0x20 then renderUnit c.toNat else [c]

/-- An element of a string. -/
def renderPiece : Piece → List Char
  | .char c => renderChar c
  | .unit u => renderUnit u

/-- A string between its quotation marks. -/
def renderText (t : Text) : List Char := '"' :: t.flatMap renderPiece ++ ['"']

/-- Texts with commas between them. -/
def commas (parts : List (List Char)) : List Char := [','].intercalate parts

/-- A value without white space. -/
def Value.render : Value → List Char
  | .null => "null".toList
  | .bool true => "true".toList
  | .bool false => "false".toList
  | .number literal => literal
  | .string text => renderText text
  | .array items => '[' :: commas (renderItems items) ++ [']']
  | .object members => '\x7B' :: commas (renderMembers members) ++ ['\x7D']
where
  /-- The items of an array. -/
  renderItems : List Value → List (List Char)
    | [] => []
    | v :: vs => v.render :: renderItems vs
  /-- The members of an object. -/
  renderMembers : List (Text × Value) → List (List Char)
    | [] => []
    | (k, v) :: ms => (renderText k ++ ':' :: v.render) :: renderMembers ms

/-- The compact text of a value. -/
def Value.toText (v : Value) : String := String.ofList v.render

end StatusWait.Json
