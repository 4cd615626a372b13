import StatusWait.Snapshot
import StatusWait.Status.Node
import StatusWait.TextSet

/-!
# Snapshots of compute nodes
-/

namespace StatusWait

/-- A compute node at one moment. -/
structure Node where
  /-- The identity, if the provider gave one. -/
  id : Option String
  name : Option String
  /-- Its name on the network. -/
  hostname : Option String
  status : NodeStatus
  tags : TextSet
deriving DecidableEq, Repr

namespace Node

/-- A node of which the identity and the status are known. -/
def new (id : String) (status : NodeStatus) : Node := ⟨some id, none, none, status, .empty⟩

/-- A node of which only the status is known. -/
def unidentified (status : NodeStatus) : Node := ⟨none, none, none, status, .empty⟩

/-! ### Setting fields -/

/-- A new value for one field. The identity has none: it never changes. -/
inductive Change
  | name (name : String)
  | hostname (hostname : String)
  /-- Other tags in place of all there were. -/
  | tags (tags : List String)
  | status (status : NodeStatus)
deriving DecidableEq, Repr

/-- The node with one field set. -/
def set (n : Node) : Change → Node
  | .name name => ⟨n.id, some name, n.hostname, n.status, n.tags⟩
  | .hostname hostname => ⟨n.id, n.name, some hostname, n.status, n.tags⟩
  | .tags tags => ⟨n.id, n.name, n.hostname, n.status, .ofList tags⟩
  | .status status => ⟨n.id, n.name, n.hostname, status, n.tags⟩

/-- The node with fields set one after the other. -/
def setAll (n : Node) (changes : List Change) : Node := changes.foldl set n

/-! ### The JSON form -/

/-- The node as an object with its fields in order of declaration. -/
def toJson (n : Node) : Json.Value :=
  .object
    [(.ofString "id", .nullable n.id), (.ofString "name", .nullable n.name),
     (.ofString "hostname", .nullable n.hostname), (.ofString "status", Status.toJson n.status),
     (.ofString "tags", .array (n.tags.elems.map fun t => .string (.ofString t)))]

/-- A node from the values of its fields; where there are no tags, the value may be missing. -/
def ofFields? (id name hostname status : Json.Value) (tags : Option Json.Value) : Option Node := do
  let id ← id.nullableText?
  let name ← name.nullableText?
  let hostname ← hostname.nullableText?
  let status ← Status.ofJson? status
  let tags ← match tags with
    | some v => v.list? Json.Value.text?
    | none => some []
  return ⟨id, name, hostname, status, .ofList tags⟩

/-- The node that a JSON value stands for: an object, in which only the status has to be
there, or an array of the fields in order, in which only the tags may be missing. -/
def ofJson? : Json.Value → Option Node
  | .object members => do
      let fields ← Json.fields? members
      let id ← Json.field? "id" fields
      let name ← Json.field? "name" fields
      let hostname ← Json.field? "hostname" fields
      let status ← Json.field? "status" fields
      let tags ← Json.field? "tags" fields
      ofFields? (id.getD .null) (name.getD .null) (hostname.getD .null) (← status) tags
  | .array [id, name, hostname, status] => ofFields? id name hostname status none
  | .array [id, name, hostname, status, tags] => ofFields? id name hostname status (some tags)
  | _ => none

end Node

instance : Snapshot Node NodeStatus where
  id? := Node.id
  status := Node.status
  toJson := Node.toJson
  ofJson? := Node.ofJson?

end StatusWait
