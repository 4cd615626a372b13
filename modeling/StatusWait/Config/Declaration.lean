import StatusWait.Config
import StatusWait.Status.Wire
import StatusWait.Toml.Document

/-!
# Configuration documents

A configuration written as a TOML document, as the bytes of such a document, or as a
JSON text.

## The model

A document declares a target and may declare invalid statuses. Reading goes in two
steps: the document has to be well formed and of the right shape, which gives a
`Declaration`; then the declaration has to be free of contradictions, which gives a
configuration. The two steps fail with different errors. The first error carries the
words of the TOML parser. They are the parser's own, so they are a parameter here.

In TOML a status is a string, or a table with one empty entry whose key is the
spelling. In JSON it is read as in snapshots, and the two parts may also be the items
of an array. Other keys are passed over. A spelling that names no status stands for the
catch-all.
-/

namespace StatusWait

/-- What a configuration document declares. -/
structure Declaration (σ : Type) where
  target : σ
  /-- The statuses that end the wait early, as they are written. -/
  invalid : List σ
deriving DecidableEq, Repr

namespace Declaration

variable {σ : Type} [Status σ]

/-! ### From TOML -/

/-- The status that a TOML value stands for. -/
def tomlStatus? : Toml.Value → Option σ
  | .string s => some (Status.ofWire s)
  | .table _ [(key, .table _ [])] => some (Status.ofWire key)
  | .table _ [(key, .array _ [])] => some (Status.ofWire key)
  | _ => none

/-- The statuses that a TOML array lists. -/
def tomlStatuses? : Toml.Value → Option (List σ)
  | .array _ items => items.mapM tomlStatus?
  | _ => none

/-- What the entries of a TOML document declare. -/
def ofToml? (entries : Toml.Entries) : Option (Declaration σ) := do
  let target ← tomlStatus? (← entries.get? "target")
  let invalid ← match entries.get? "invalid" with
    | some v => tomlStatuses? v
    | none => some []
  return ⟨target, invalid⟩

/-! ### From JSON -/

/-- A declaration from the JSON values of its parts. -/
def ofParts? (target : Json.Value) (invalid : Option Json.Value) : Option (Declaration σ) := do
  let target ← Status.ofJson? target
  let invalid ← match invalid with
    | some v => v.list? Status.ofJson?
    | none => some []
  return ⟨target, invalid⟩

/-- What a JSON value declares: an object, or an array of the parts. -/
def ofJson? : Json.Value → Option (Declaration σ)
  | .object members => do
      let fields ← Json.fields? members
      let target ← Json.field? "target" fields
      let invalid ← Json.field? "invalid" fields
      ofParts? (← target) invalid
  | .array [target] => ofParts? target none
  | .array [target, invalid] => ofParts? target (some invalid)
  | _ => none

/-- The configuration that is declared. -/
def toConfig [DecidableEq σ] (d : Declaration σ) : Except (Conflict σ) (Config σ) :=
  Config.new d.target d.invalid

end Declaration

/-- Why a JSON text gives no configuration. -/
inductive JsonFault (σ : Type)
  /-- The text is no JSON, or not of the right shape. -/
  | malformed
  /-- The declaration contradicts itself. -/
  | conflict (c : Conflict σ)
deriving DecidableEq, Repr

/-- What is found at a path. -/
inductive File
  | missing
  | directory
  | bytes (content : ByteArray)

namespace Config

variable {σ : Type} [DecidableEq σ] [Status σ]

/-- No words for any text, for a caller that does not pass on why a text is refused. -/
def unexplained : String → String := fun _ => ""

/-- The configuration that a TOML text declares. A text that declares none is refused in
the words of the parser, which `explain` gives for each text. -/
def readToml (text : String) (explain : String → String := unexplained) : Except SetupError (Config σ) :=
  match Toml.read text >>= Declaration.ofToml? with
  | none => .error (.configParseFailed (explain text))
  | some d => d.toConfig.mapError Conflict.toError

/-- The configuration in a file. -/
def ofFile (found : File) (explain : String → String := unexplained) : Except SetupError (Config σ) :=
  match found with
  | .missing => .error (.file .notFound)
  | .directory => .error (.file .isDirectory)
  | .bytes content =>
    match String.fromUTF8? content with
    | none => .error (.file .notUtf8)
    | some text => readToml text explain

/-- The configuration that a JSON text declares. A contradiction is found before anything
that follows the value. -/
def readJson (text : String) : Except (JsonFault σ) (Config σ) :=
  match Json.readFirst text with
  | none => .error .malformed
  | some (v, rest) =>
    match Declaration.ofJson? v with
    | none => .error .malformed
    | some d =>
      match d.toConfig with
      | .error c => .error (.conflict c)
      | .ok config => if rest = [] then .ok config else .error .malformed

end Config

end StatusWait
