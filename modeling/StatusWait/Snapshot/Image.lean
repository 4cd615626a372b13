import StatusWait.Snapshot
import StatusWait.Status.Image

/-!
# Snapshots of machine images
-/

namespace StatusWait

/-- A machine image at one moment. -/
structure Image where
  /-- The identity, if the provider gave one. -/
  id : Option String
  name : Option String
  description : Option String
  status : ImageStatus
deriving DecidableEq, Repr

namespace Image

/-- An image of which the identity and the status are known. -/
def new (id : String) (status : ImageStatus) : Image := ⟨some id, none, none, status⟩

/-- An image of which only the status is known. -/
def unidentified (status : ImageStatus) : Image := ⟨none, none, none, status⟩

/-! ### Setting fields -/

/-- A new value for one field. The identity has none: it never changes. -/
inductive Change
  | name (name : String)
  | description (description : String)
  | status (status : ImageStatus)
deriving DecidableEq, Repr

/-- The image with one field set. -/
def set (i : Image) : Change → Image
  | .name name => ⟨i.id, some name, i.description, i.status⟩
  | .description description => ⟨i.id, i.name, some description, i.status⟩
  | .status status => ⟨i.id, i.name, i.description, status⟩

/-- The image with fields set one after the other. -/
def setAll (i : Image) (changes : List Change) : Image := changes.foldl set i

/-! ### The JSON form -/

/-- The image as an object with its fields in order of declaration. -/
def toJson (i : Image) : Json.Value :=
  .object
    [(.ofString "id", .nullable i.id), (.ofString "name", .nullable i.name),
     (.ofString "description", .nullable i.description), (.ofString "status", Status.toJson i.status)]

/-- An image from the values of its fields. -/
def ofFields? (id name description status : Json.Value) : Option Image := do
  let id ← id.nullableText?
  let name ← name.nullableText?
  let description ← description.nullableText?
  let status ← Status.ofJson? status
  return ⟨id, name, description, status⟩

/-- The image that a JSON value stands for: an object, in which only the status has to be
there, or an array of the four fields in order. -/
def ofJson? : Json.Value → Option Image
  | .object members => do
      let fields ← Json.fields? members
      let id ← Json.field? "id" fields
      let name ← Json.field? "name" fields
      let description ← Json.field? "description" fields
      let status ← Json.field? "status" fields
      ofFields? (id.getD .null) (name.getD .null) (description.getD .null) (← status)
  | .array [id, name, description, status] => ofFields? id name description status
  | _ => none

end Image

instance : Snapshot Image ImageStatus where
  id? := Image.id
  status := Image.status
  toJson := Image.toJson
  ofJson? := Image.ofJson?

end StatusWait
