import StatusWait.Json.Shape

/-!
# Decisions

The answer of one look at a resource: the wait is over, for good or for bad, or it goes
on.
-/

namespace StatusWait

/-- The outcome of one evaluation. -/
inductive Decision
  /-- The resource is in the status waited for. -/
  | pass
  /-- The resource will not get there. -/
  | fail
  /-- Not decided: look again. -/
  | retry
deriving DecidableEq, Repr

namespace Decision

/-- The wait is over. -/
def isTerminal : Decision → Bool
  | pass | fail => true
  | retry => false

/-- The decision in small letters. -/
def name : Decision → String
  | pass => "pass"
  | fail => "fail"
  | retry => "retry"

/-- The decision, capitalised. -/
def label : Decision → String
  | pass => "Pass"
  | fail => "Fail"
  | retry => "Retry"

/-- The decision of a name. -/
def ofName? (s : String) : Option Decision := [pass, fail, retry].find? fun d => d.name == s

/-- A decision as a JSON value. -/
def toJson (d : Decision) : Json.Value := .string (Json.Text.ofString d.name)

/-- The decision that a JSON value stands for; no other name is taken for one. -/
def ofJson? (v : Json.Value) : Option Decision := v.caseName? >>= ofName?

/-- The decision that a JSON text stands for. -/
def readJson? (text : String) : Option Decision := Json.read text >>= ofJson?

@[simp] theorem ofName?_name (d : Decision) : ofName? d.name = some d := by cases d <;> decide

/-- A decision read back from its JSON value. -/
@[simp] theorem ofJson?_toJson (d : Decision) : ofJson? (toJson d) = some d := by
  simp [ofJson?, toJson]

end Decision

end StatusWait
