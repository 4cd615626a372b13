import StatusWait.Config
import StatusWait.Counter
import StatusWait.Decision
import StatusWait.Refresh.Lookup

/-!
# Waits

Whether a resource has reached the status that is waited for, decided once per look.

## The model

A wait has a configuration, the layers around its lookups, and a memory. A look is
given a snapshot or nothing. Its subject is that snapshot, if it has an identity, or
else the snapshot in memory. Without a subject the wait fails if there has been a
lookup before, since a lookup that found nothing is the only way to lose the snapshot in
memory; otherwise it goes on.

A subject whose status is the target passes and one whose status is invalid fails. In
any other status the resource is looked up once, and a fresh snapshot of the same
resource decides in the same way. A lookup that finds nothing empties the memory; one
that fails, or answers about another resource, leaves the subject there. None of these
decides anything.
-/

namespace StatusWait

/-- What a wait keeps from look to look. -/
structure Memory (S : Type) where
  /-- The snapshot that the last decision was made from. -/
  lastSeen : Option S
  /-- There has been a lookup. -/
  refreshAttempted : Bool
  /-- How many looks there have been; the counter saturates. -/
  evaluations : UInt64
  /-- How many lookups there have been; the counter saturates. -/
  refreshes : UInt64
deriving DecidableEq, Repr

namespace Memory

variable {S : Type}

/-- The memory before the first look. -/
def fresh : Memory S := ⟨none, false, 0, 0⟩

/-- One more look. -/
def looked (m : Memory S) : Memory S := ⟨m.lastSeen, m.refreshAttempted, bump m.evaluations, m.refreshes⟩

/-- One more lookup. -/
def lookedUp (m : Memory S) : Memory S := ⟨m.lastSeen, true, m.evaluations, bump m.refreshes⟩

/-- Another snapshot to remember, or none. -/
def remember (m : Memory S) (s : Option S) : Memory S :=
  ⟨s, m.refreshAttempted, m.evaluations, m.refreshes⟩

end Memory

/-- What comes of one look. -/
structure Turn (S σ : Type) where
  decision : Decision
  memory : Memory S
  log : List (Event σ)
  /-- The identities that were looked up: one or none. -/
  asked : List String
deriving DecidableEq, Repr

/-- What comes of a lookup. -/
structure Outcome (S σ : Type) where
  decision : Decision
  /-- The snapshot to remember. -/
  lastSeen : Option S
  event : Event σ
deriving DecidableEq, Repr

section

variable {S σ : Type} [Snapshot S σ] [DecidableEq σ] [Status σ]

/-- The subject of a look, with its identity. -/
def subject? (m : Memory S) (input : Option S) : Option (String × S) :=
  input.bind Snapshot.identified? <|> m.lastSeen.bind Snapshot.identified?

/-- What is said to be the identity of a snapshot that has none. -/
def noIdentity : String := "<none>"

/-- What comes of a fresh snapshot of the resource itself. -/
def Config.settle (c : Config σ) (id : String) (fresh : S) : Outcome S σ :=
  let status := Snapshot.status fresh
  match c.standing status with
  | .target => ⟨.pass, some fresh, .reachedTarget id status⟩
  | .invalid => ⟨.fail, some fresh, .reachedInvalid id status c.target⟩
  | .transitional => ⟨.retry, some fresh, .stillInTransition id status⟩

/-- What comes of looking up the resource of a stale snapshot. -/
def Config.weigh (c : Config σ) (id : String) (stale : S) : Answer S → Outcome S σ
  | .found fresh =>
      if Snapshot.id? fresh = some id then c.settle id fresh
      else
        let error := PollError.identityMismatch id ((Snapshot.id? fresh).getD noIdentity)
        ⟨.retry, some stale, .ignored error.message⟩
  | .gone => ⟨.retry, none, .notFound id⟩
  | .failed error => ⟨.retry, some stale, .lookupInconclusive id error.message⟩

/-- One look at a resource: `input` is the snapshot at hand and `lookup` what a lookup
would reply. -/
def Config.evaluate (c : Config σ) (m : Memory S) (input : Option S) (lookup : String → Reply S σ) :
    Turn S σ :=
  let m := m.looked
  match subject? m input with
  | none =>
      if m.refreshAttempted then ⟨.fail, m, [.gone c.target], []⟩
      else ⟨.retry, m, [.nothingYet], []⟩
  | some (id, s) =>
    let status := Snapshot.status s
    match c.standing status with
    | .target => ⟨.pass, m.remember (some s), [.reachedTarget id status], []⟩
    | .invalid => ⟨.fail, m.remember (some s), [.reachedInvalid id status c.target], []⟩
    | .transitional =>
        let reply := lookup id
        let outcome := c.weigh id s reply.answer
        ⟨outcome.decision, m.lookedUp.remember outcome.lastSeen,
          .inconclusive id status :: reply.log ++ [outcome.event], [id]⟩

/-- A wait for one resource. -/
structure Wait (S σ : Type) [DecidableEq σ] [Status σ] where
  config : Config σ
  /-- What lies around its lookups, the outermost first. -/
  layers : List Layer
  /-- What it has seen. -/
  memory : Memory S

namespace Wait

/-- A wait that has not looked yet. -/
def new (config : Config σ) (layers : List Layer) : Wait S σ := ⟨config, layers, .fresh⟩

/-- A wait for a target through a client; it ends early at the given statuses or at those
of the kind. -/
def forTarget (target : σ) (invalid : Option (List σ)) (layers : List Layer) :
    Except PollError (Wait S σ) :=
  match Config.new target (invalid.getD Status.defaultInvalid) with
  | .ok config => .ok (new config (.client :: layers))
  | .error conflict => .error (.setup conflict.toError)

/-- One look, with lookups through the layers of the wait. -/
def evaluate (w : Wait S σ) (input : Option S) (lookup : String → Answer S) : Turn S σ :=
  w.config.evaluate w.memory input (Layer.wrap w.layers lookup)

/-- The wait after a look. -/
def after (w : Wait S σ) (t : Turn S σ) : Wait S σ := ⟨w.config, w.layers, t.memory⟩

end Wait

end

end StatusWait
