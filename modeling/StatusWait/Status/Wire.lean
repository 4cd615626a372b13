import StatusWait.Status
import StatusWait.Json.Shape

/-!
# Statuses in JSON

A status is written as a string, its spelling. It is read from a string or from an
object with the spelling as its only key; a spelling that names no status stands for
the catch-all.
-/

namespace StatusWait.Status

variable {σ : Type} [Status σ]

/-- A status as a JSON value. -/
def toJson (s : σ) : Json.Value := .string (Json.Text.ofString (wire s))

/-- The status that a JSON value stands for. -/
def ofJson? (v : Json.Value) : Option σ := ofWire <$> v.caseName?

/-- The status that a JSON text stands for. -/
def readJson? (text : String) : Option σ := Json.read text >>= ofJson?

/-- A status read back from its JSON value. -/
@[simp] theorem ofJson?_toJson (s : σ) : ofJson? (toJson s) = some s := by
  simp [ofJson?, toJson]

end StatusWait.Status
