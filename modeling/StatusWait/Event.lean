import StatusWait.Status

/-!
# Events

What a wait, a traced lookup and the lenient reading of a status tell an observer.

## The model

An event is a value that names what happened and to whom. Its level, its text and its
fields are functions of it, so that an observer's record is `Event.record`. Statuses
are shown by their spelling on the wire, errors by their text.
-/

namespace StatusWait

/-- How much an event matters. -/
inductive Level
  | debug
  | info
  | warn
deriving DecidableEq, Repr

/-- The level in capitals. -/
def Level.name : Level → String
  | debug => "DEBUG"
  | info => "INFO"
  | warn => "WARN"

/-- What happened. -/
inductive Event (σ : Type)
  /-- The resource is in the status waited for. -/
  | reachedTarget (id : String) (status : σ)
  /-- The resource is in a status that ends the wait. -/
  | reachedInvalid (id : String) (status target : σ)
  /-- The resource has gone before it reached the target. -/
  | gone (target : σ)
  /-- Nothing with an identity has been seen so far. -/
  | nothingYet
  /-- The status in hand decides nothing, so the resource is looked up. -/
  | inconclusive (id : String) (status : σ)
  | stillInTransition (id : String) (status : σ)
  /-- The lookup answered about another resource. -/
  | ignored (error : String)
  | notFound (id : String)
  /-- The lookup failed. -/
  | lookupInconclusive (id error : String)
  | refreshing (id : String)
  | refreshed (id : String) (status : σ)
  | refreshedNothing (id : String)
  | refreshFailed (id error : String)
  /-- A text that names no status was read leniently. -/
  | unknownStatus (text : String)
deriving DecidableEq, Repr

/-- An event as an observer sees it. -/
structure Record where
  level : Level
  message : String
  /-- To whom: the names and the texts of the fields. -/
  fields : List (String × String)
deriving DecidableEq, Repr

namespace Event

variable {σ : Type}

/-- How much an event matters. -/
def level : Event σ → Level
  | reachedTarget _ _ | reachedInvalid _ _ _ | gone _ => .info
  | ignored _ | lookupInconclusive _ _ | refreshFailed _ _ => .warn
  | nothingYet | inconclusive _ _ | stillInTransition _ _ | notFound _ | refreshing _
  | refreshed _ _ | refreshedNothing _ | unknownStatus _ => .debug

variable [Status σ]

/-- What happened, in words. -/
def message : Event σ → String
  | reachedTarget _ _ => "Resource reached target status"
  | reachedInvalid _ _ _ => "Resource reached invalid status"
  | gone _ => "Resource is gone and never reached target status"
  | nothingYet => "No snapshot with identity to evaluate yet"
  | inconclusive _ _ => "Status inconclusive, refreshing"
  | stillInTransition _ _ => "Resource still in transition"
  | ignored _ => "Ignoring refreshed snapshot"
  | notFound _ => "Resource not found on refresh"
  | lookupInconclusive _ _ => "Refresh inconclusive"
  | refreshing _ => "Refreshing snapshot"
  | refreshed _ _ => "Refreshed snapshot"
  | refreshedNothing _ => "Resource not found"
  | refreshFailed _ _ => "Refresh failed"
  | unknownStatus _ => "Unknown " ++ Status.kind σ ++ " status, treating as unrecognized"

/-- The fields of an event, by name. -/
def fields : Event σ → List (String × String)
  | reachedTarget id status | inconclusive id status | stillInTransition id status
  | refreshed id status => [("id", id), ("status", Status.wire status)]
  | reachedInvalid id status target =>
      [("id", id), ("status", Status.wire status), ("target_status", Status.wire target)]
  | gone target => [("target_status", Status.wire target)]
  | nothingYet => []
  | ignored error => [("error", error)]
  | notFound id | refreshing id | refreshedNothing id => [("id", id)]
  | lookupInconclusive id error | refreshFailed id error => [("id", id), ("error", error)]
  | unknownStatus text => [("value", text)]

/-- The event as an observer sees it. -/
def record (e : Event σ) : Record := ⟨e.level, e.message, e.fields⟩

end Event

end StatusWait
