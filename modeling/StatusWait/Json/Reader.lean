import StatusWait.Json.Value

/-!
# Reading JSON

From tokens to values, with a stack of the arrays and objects that are still open.

## The model

A state says what may come next and which arrays and objects are open, the innermost
first. One token at a time leads from state to state; when a value is complete and
nothing is open, the reading is over and the rest of the tokens is left. Nesting has
no limit.
-/

namespace StatusWait.Json

/-- An array or object that is still open; its elements are kept last first. -/
inductive Frame
  | array (items : List Value)
  | object (members : List (Text × Value))
  /-- An object whose next member has its key already. -/
  | member (members : List (Text × Value)) (key : Text)
deriving Repr

/-- What may come next. -/
inductive Expect
  | value
  /-- A value, or the end of an array without items. -/
  | item
  | key
  /-- The key of a member, or the end of an object without members. -/
  | firstKey
  | colon
  /-- A comma, or the end of what is open. -/
  | more
deriving DecidableEq, Repr

/-- A stage of the reading. -/
inductive State
  | reading (expect : Expect) (stack : List Frame)
  | complete (value : Value)
deriving Repr

/-- Put a complete value where it belongs. -/
def deliver (v : Value) : List Frame → Option State
  | [] => some (.complete v)
  | .array items :: stack => some (.reading .more (.array (v :: items) :: stack))
  | .member members key :: stack => some (.reading .more (.object ((key, v) :: members) :: stack))
  | .object _ :: _ => none

/-- The token where a value begins. -/
def beginValue (stack : List Frame) : Token → Option State
  | .null => deliver .null stack
  | .bool b => deliver (.bool b) stack
  | .number literal => deliver (.number literal) stack
  | .string text => deliver (.string text) stack
  | .openArray => some (.reading .item (.array [] :: stack))
  | .openObject => some (.reading .firstKey (.object [] :: stack))
  | _ => none

/-- The end of the innermost array or object. -/
def close : List Frame → Token → Option State
  | .array items :: stack, .closeArray => deliver (.array items.reverse) stack
  | .object members :: stack, .closeObject => deliver (.object members.reverse) stack
  | _, _ => none

/-- The key of a member. -/
def beginMember : List Frame → Token → Option State
  | .object members :: stack, .string key => some (.reading .colon (.member members key :: stack))
  | _, _ => none

/-- What one token does; none if it may not come here. -/
def step (expect : Expect) (stack : List Frame) (t : Token) : Option State :=
  match expect with
  | .value => beginValue stack t
  | .item => if t = .closeArray then close stack t else beginValue stack t
  | .key => beginMember stack t
  | .firstKey => if t = .closeObject then close stack t else beginMember stack t
  | .colon => if t = .colon then some (.reading .value stack) else none
  | .more =>
      if t = .comma then
        match stack with
        | .array _ :: _ => some (.reading .value stack)
        | .object _ :: _ => some (.reading .key stack)
        | _ => none
      else close stack t

/-- Read on to the end of the value; the tokens behind it are left. -/
def run : State → List Token → Option (Value × List Token)
  | .complete v, ts => some (v, ts)
  | .reading _ _, [] => none
  | .reading expect stack, t :: ts => (step expect stack t).bind (run · ts)

/-- The first value of a text and the tokens behind it. -/
def readFirst (text : String) : Option (Value × List Token) :=
  run (.reading .value []) (tokens text.toList)

/-- The value that a text is. -/
def read (text : String) : Option Value :=
  match readFirst text with
  | some (v, []) => some v
  | _ => none

end StatusWait.Json
