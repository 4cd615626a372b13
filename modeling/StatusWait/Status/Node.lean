import StatusWait.Status

/-!
# The statuses of a compute node
-/

namespace StatusWait

/-- The status of a compute node. -/
inductive NodeStatus
  | pending
  | terminated
  | suspended
  | running
  | error
  /-- The provider gave a status of another name. -/
  | unrecognized
deriving DecidableEq, Repr

namespace NodeStatus

/-- The spelling on the wire. -/
def wire : NodeStatus → String
  | pending => "PENDING"
  | terminated => "TERMINATED"
  | suspended => "SUSPENDED"
  | running => "RUNNING"
  | error => "ERROR"
  | unrecognized => "UNRECOGNIZED"

/-- The capitalised name. -/
def label : NodeStatus → String
  | pending => "Pending"
  | terminated => "Terminated"
  | suspended => "Suspended"
  | running => "Running"
  | error => "Error"
  | unrecognized => "Unrecognized"

end NodeStatus

/-- A wait for a node ends early when the node breaks. -/
instance : Status NodeStatus where
  kind := "node"
  all := [.pending, .terminated, .suspended, .running, .error, .unrecognized]
  wire := NodeStatus.wire
  label := NodeStatus.label
  unrecognized := .unrecognized
  defaultInvalid := [.error]
  mem_all s := by cases s <;> decide
  wire_injective {s t} := by cases s <;> cases t <;> decide
  wire_upper s := by cases s <;> decide
  unrecognized_not_mem_defaultInvalid := by decide

end StatusWait
