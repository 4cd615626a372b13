import StatusWait.Status

/-!
# The statuses of a machine image
-/

namespace StatusWait

/-- The status of a machine image. -/
inductive ImageStatus
  | pending
  | deleted
  | available
  | error
  /-- The provider gave a status of another name. -/
  | unrecognized
deriving DecidableEq, Repr

namespace ImageStatus

/-- The spelling on the wire. -/
def wire : ImageStatus → String
  | pending => "PENDING"
  | deleted => "DELETED"
  | available => "AVAILABLE"
  | error => "ERROR"
  | unrecognized => "UNRECOGNIZED"

/-- The capitalised name. -/
def label : ImageStatus → String
  | pending => "Pending"
  | deleted => "Deleted"
  | available => "Available"
  | error => "Error"
  | unrecognized => "Unrecognized"

end ImageStatus

/-- A wait for an image ends early when the image breaks. -/
instance : Status ImageStatus where
  kind := "image"
  all := [.pending, .deleted, .available, .error, .unrecognized]
  wire := ImageStatus.wire
  label := ImageStatus.label
  unrecognized := .unrecognized
  defaultInvalid := [.error]
  mem_all s := by cases s <;> decide
  wire_injective {s t} := by cases s <;> cases t <;> decide
  wire_upper s := by cases s <;> decide
  unrecognized_not_mem_defaultInvalid := by decide

end StatusWait
