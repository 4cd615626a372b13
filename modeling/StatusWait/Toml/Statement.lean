import StatusWait.Toml.Token
import StatusWait.Toml.Scalar
import StatusWait.Toml.Table

/-!
# TOML statements

The lines of a TOML document: headings, headings of array elements, and entries with
their values, which may go over several lines.

## The model

A state is a phase, what may come next, and the stack of what is open, the innermost
first: arrays, inline tables, and entries that wait for their value. One token at a
time leads from state to state and completes at most one statement. At the end of the
text nothing may be open.

Inside an array or an inline table a line may end before and after every element, every
key path, every equals sign and every value, but not within a key path. Outside of them
no line ends between the parts of an entry.

Arrays and inline tables lie at most eighty deep in one another, and a path of keys has
at most eighty keys.
-/

namespace StatusWait.Toml

/-- One statement of a document. -/
inductive Statement
  /-- The heading of a table. -/
  | heading (path : List String) (key : String)
  /-- The heading of an element of an array. -/
  | element (path : List String) (key : String)
  | entry (path : List String) (key : String) (value : Value)
deriving Repr

/-- Something that is still open. -/
inductive Frame
  /-- An array and its items so far, last first. -/
  | array (items : List Value)
  /-- An inline table and its entries so far. -/
  | inline (entries : Entries)
  /-- An entry that waits for its value. -/
  | entry (path : List String) (key : String)
deriving Repr

/-- What may come next. Paths are kept last key first. -/
inductive Phase
  | statement
  /-- The rest of a heading, behind its first bracket. -/
  | bracket
  /-- A key of a heading. -/
  | headingKey (element : Bool) (path : List String)
  /-- What follows a key of a heading. -/
  | headingNext (element : Bool) (key : String) (path : List String)
  /-- The second of the two brackets that close the heading of an element. -/
  | headingClose (key : String) (path : List String)
  /-- The end of the line, behind a complete statement. -/
  | lineEnd
  /-- A key of an inline table, or the end of the table. -/
  | member
  /-- One more key of an entry, behind a full stop. -/
  | key (path : List String)
  /-- What follows a key of an entry. -/
  | keyNext (key : String) (path : List String)
  /-- The equals sign of an entry whose path of keys is complete. -/
  | equals (key : String) (path : List String)
  /-- A value, or the end of an array. -/
  | value
  /-- The rest of a bare value. -/
  | bare (read : List Char)
  /-- The time that may follow a date behind one space. -/
  | time (date : List Char)
  /-- A comma, or the end of what is open. -/
  | more
deriving DecidableEq, Repr

/-- Where a token leads: a phase, what is open, and the statement that is complete. -/
abbrev Move := Phase × List Frame × List Statement

/-! ### Limits -/

/-- How deep arrays and inline tables may lie in one another. -/
def maxDepth : Nat := 80

/-- How many keys a path may have. -/
def maxKeys : Nat := 80

/-- How many arrays and inline tables are open. -/
def depth (stack : List Frame) : Nat :=
  stack.countP fun f => match f with
    | .array _ | .inline _ => true
    | .entry _ _ => false

/-- One more array or inline table. -/
def nest (phase : Phase) (f : Frame) (stack : List Frame) : Option Move :=
  if depth stack < maxDepth then some (phase, f :: stack, []) else none

/-- A line may end here: an array or an inline table is open. -/
def spansLines (stack : List Frame) : Bool := 0 < depth stack

/-! ### Keys -/

/-- A character of a key without quotes. -/
def isKeyChar (c : Char) : Bool := c.isAlphanum || c = '_' || c = '-'

/-- The key that a token is. -/
def key? : Token → Option String
  | .bare read => if read.all isKeyChar then some (String.ofList read) else none
  | .quoted false content => some (String.ofList content)
  | _ => none

/-- The equals sign behind a path of keys. -/
def onEquals (key : String) (path : List String) (stack : List Frame) : Option Move :=
  if path.length < maxKeys then some (.value, .entry path.reverse key :: stack, []) else none

/-- A token that may stand before a key, or the key itself. -/
def onKey (here : Phase) (next : String → Phase) (stack : List Frame) (t : Token) : Option Move :=
  match t with
  | .blank _ => some (here, stack, [])
  | _ => (key? t).map fun k => (next k, stack, [])

/-! ### Values -/

/-- Put a complete value where it belongs. -/
def deliver (v : Value) : List Frame → Option Move
  | [.entry path key] => some (.lineEnd, [], [.entry path key v])
  | .entry path key :: .inline entries :: stack => do
      let (_, entries') ← assign path key v (.inline, entries)
      return (.more, .inline entries' :: stack, [])
  | .array items :: stack => some (.more, .array (v :: items) :: stack, [])
  | _ => none

/-- The end of an array. -/
def closeArray : List Frame → Option Move
  | .array items :: stack => deliver (.array false items.reverse) stack
  | _ => none

/-- The end of an inline table. -/
def closeInline : List Frame → Option Move
  | .inline entries :: stack => deliver (.table .inline entries) stack
  | _ => none

/-- The innermost thing that is open is an array. -/
def inArray : List Frame → Bool
  | .array _ :: _ => true
  | _ => false

/-- A token where a value may begin. -/
def onValue (stack : List Frame) (t : Token) : Option Move :=
  match t with
  | .blank _ => some (.value, stack, [])
  | .newline => if spansLines stack then some (.value, stack, []) else none
  | .closeBracket => closeArray stack
  | .quoted _ content => deliver (.string (String.ofList content)) stack
  | .bare read => some (.bare read, stack, [])
  | .openBracket => nest .value (.array []) stack
  | .openBrace => nest .member (.inline []) stack
  | _ => none

/-- A token behind an element of an array or of an inline table. -/
def onMore (stack : List Frame) (t : Token) : Option Move :=
  match t with
  | .blank _ | .newline => some (.more, stack, [])
  | .comma => some (if inArray stack then .value else .member, stack, [])
  | .closeBracket => closeArray stack
  | .closeBrace => closeInline stack
  | _ => none

/-- A token behind a statement. -/
def onLineEnd (stack : List Frame) (t : Token) : Option Move :=
  match t with
  | .blank _ => some (.lineEnd, stack, [])
  | .newline => some (.statement, stack, [])
  | _ => none

/-- A bare value is complete, and a token follows it. -/
def endBare (read : List Char) (stack : List Frame) (t : Token) : Option Move :=
  if Scalar.isScalar read then
    match deliver .scalar stack with
    | some (.lineEnd, stack', done) => (onLineEnd stack' t).map fun (p, s, _) => (p, s, done)
    | some (_, stack', _) => onMore stack' t
    | none => none
  else none

/-! ### The reading -/

/-- What one token does; none if it may not come here. -/
def step (phase : Phase) (stack : List Frame) (t : Token) : Option Move :=
  match phase with
  | .statement =>
      match t with
      | .newline => some (.statement, stack, [])
      | .openBracket => some (.bracket, stack, [])
      | _ => onKey .statement (.keyNext · []) stack t
  | .bracket =>
      match t with
      | .openBracket => some (.headingKey true [], stack, [])
      | _ => onKey (.headingKey false []) (.headingNext false · []) stack t
  | .headingKey element path => onKey (.headingKey element path) (.headingNext element · path) stack t
  | .headingNext element key path =>
      match t with
      | .blank _ => some (.headingNext element key path, stack, [])
      | .dot => some (.headingKey element (key :: path), stack, [])
      | .closeBracket =>
          if path.length < maxKeys then
            if element then some (.headingClose key path, stack, [])
            else some (.lineEnd, stack, [.heading path.reverse key])
          else none
      | _ => none
  | .headingClose key path =>
      match t with
      | .closeBracket => some (.lineEnd, stack, [.element path.reverse key])
      | _ => none
  | .lineEnd => onLineEnd stack t
  | .member =>
      match t with
      | .newline => some (.member, stack, [])
      | .closeBrace => closeInline stack
      | _ => onKey .member (.keyNext · []) stack t
  | .key path => onKey (.key path) (.keyNext · path) stack t
  | .keyNext key path =>
      match t with
      | .blank _ => some (.keyNext key path, stack, [])
      | .dot => some (.key (key :: path), stack, [])
      | .newline => if spansLines stack then some (.equals key path, stack, []) else none
      | .equals => onEquals key path stack
      | _ => none
  | .equals key path =>
      match t with
      | .blank _ | .newline => some (.equals key path, stack, [])
      | .equals => onEquals key path stack
      | _ => none
  | .value => onValue stack t
  | .bare read =>
      match t with
      | .dot => some (.bare (read ++ ['.']), stack, [])
      | .bare more => some (.bare (read ++ more), stack, [])
      | .blank [' '] =>
          if Scalar.isDate read then some (.time read, stack, []) else endBare read stack t
      | _ => endBare read stack t
  | .time date =>
      match t with
      | .bare more => some (.bare (date ++ ' ' :: more), stack, [])
      | _ => endBare date stack t
  | .more => onMore stack t

/-- The statements that the tokens make, read on from a state. -/
def statementsFrom (phase : Phase) (stack : List Frame) : List Token → Option (List Statement)
  | [] => if phase = .statement then some [] else none
  | t :: ts => do
      let (phase', stack', done) ← step phase stack t
      let rest ← statementsFrom phase' stack' ts
      return done ++ rest

/-- The statements of a text. -/
def statements (text : List Char) : Option (List Statement) :=
  tokens text >>= statementsFrom .statement []

end StatusWait.Toml
