import StatusWait.Json.Reader

/-!
# The shapes of JSON values

What a decoder asks of a value: to be a text, to be a text or nothing, to be a list,
to name one case of an enumeration, to be the fields of a record.

## The model

The fields of a record are looked up by name among the members of an object. Every key
of such an object has to be a text of characters; a field that comes twice is refused,
and members of other names are passed over, repeated or not. What is inside a member
that is passed over is never looked at, so its strings need not be decodable.
-/

namespace StatusWait.Json

/-- The text that a value is. -/
def Value.text? : Value → Option String
  | .string t => t.toString?
  | _ => none

/-- The text that a value is, or nothing where it is `null`. -/
def Value.nullableText? : Value → Option (Option String)
  | .null => some none
  | v => some <$> v.text?

/-- The items of an array, each decoded. -/
def Value.list? {α : Type} (decode : Value → Option α) : Value → Option (List α)
  | .array items => items.mapM decode
  | _ => none

/-- The case of an enumeration: its name, or an object with the name as its one key and
`null` as the value. -/
def Value.caseName? : Value → Option String
  | .string t => t.toString?
  | .object [(key, .null)] => key.toString?
  | _ => none

/-- The members of an object with their keys decoded. -/
def fields? (members : List (Text × Value)) : Option (List (String × Value)) :=
  members.mapM fun (key, v) => (·, v) <$> key.toString?

/-- The value of a field, if there is one; none if the field comes twice. -/
def field? (name : String) (fields : List (String × Value)) : Option (Option Value) :=
  match fields.filter fun f => f.1 = name with
  | [] => some none
  | [f] => some (some f.2)
  | _ => none

/-! ### Small facts -/

@[simp] theorem text?_string (s : String) : (Value.string (Text.ofString s)).text? = some s := by
  simp [Value.text?]

@[simp] theorem nullableText?_null : Value.null.nullableText? = some none := rfl

@[simp] theorem nullableText?_string (s : String) :
    (Value.string (Text.ofString s)).nullableText? = some (some s) := by
  simp [Value.nullableText?]

@[simp] theorem caseName?_string (s : String) :
    (Value.string (Text.ofString s)).caseName? = some s := by
  simp [Value.caseName?]

@[simp] theorem caseName?_object (s : String) :
    (Value.object [(Text.ofString s, .null)]).caseName? = some s := by
  simp [Value.caseName?]

end StatusWait.Json
