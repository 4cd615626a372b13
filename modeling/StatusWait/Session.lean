import StatusWait.Refresh.Source
import StatusWait.Wait

/-!
# Sessions

Several waits that share one source.

## The model

A session has a source and a row of places for waits; a place is empty when its wait
could not be built or has been used up. Operations are given one after the other: a look
of one wait, questions about its state, its end, a change of the source, or a lookup
without a wait. An operation on an empty place changes nothing.
-/

namespace StatusWait

/-- The snapshot that a look is given. -/
inductive Input (S : Type)
  /-- This snapshot, or nothing. -/
  | given (snapshot : Option S)
  /-- What the wait itself remembers. -/
  | lastSeen
deriving DecidableEq, Repr

/-- The snapshot that an input is for a wait with this memory. -/
def Input.resolve {S : Type} (m : Memory S) : Input S → Option S
  | given snapshot => snapshot
  | lastSeen => m.lastSeen

/-- One operation of a session. -/
inductive Operation (S : Type)
  /-- The wait at a place has a look. -/
  | evaluate (place : Nat) (input : Input S)
  | state (place : Nat)
  | config (place : Nat)
  /-- The wait at a place ends and gives up what it remembers. -/
  | consume (place : Nat)
  | upsert (snapshot : S)
  | remove (id : String)
  /-- One more answer at the end of the script. -/
  | append (answer : Answer S)
  /-- A lookup through layers, without a wait. -/
  | refresh (id : String) (layers : List Layer)
deriving DecidableEq, Repr

/-- The answer to an operation. -/
inductive Result (S σ : Type) [DecidableEq σ] [Status σ]
  /-- A decision, the state of the wait after it, and the count of the source. -/
  | evaluated (decision : Decision) (memory : Memory S) (calls : UInt64)
  | state (memory : Memory S) (calls : UInt64)
  | config (config : Config σ)
  /-- What a wait remembered. -/
  | consumed (lastSeen : Option S)
  /-- Whether a snapshot could be stored, and the identities in the store. -/
  | upserted (stored : Bool) (ids : List String)
  /-- The snapshot that left the store, and the identities still there. -/
  | removed (snapshot : Option S) (ids : List String)
  | appended
  /-- What a lookup found, and the count of the source. -/
  | refreshed (answer : Answer S) (calls : UInt64)
  | noWait
  /-- The source is not of the kind that the operation is for. -/
  | otherSource

/-- Several waits and their source. -/
structure Session (S σ : Type) [DecidableEq σ] [Status σ] where
  source : Source S
  /-- The waits by place; a place is empty once its wait has ended. -/
  waits : List (Option (Wait S σ))

/-- What an operation answers, the events it logs, and the identities it looks up. -/
structure Response (S σ : Type) [DecidableEq σ] [Status σ] where
  result : Result S σ
  log : List (Event σ)
  /-- The identities that were looked up. -/
  asked : List String

namespace Session

variable {S σ : Type} [Snapshot S σ] [DecidableEq σ] [Status σ]

/-- The wait at a place. -/
def wait? (x : Session S σ) (place : Nat) : Option (Wait S σ) := (x.waits[place]?).join

/-- An answer without events or lookups. -/
def quiet (x : Session S σ) (r : Result S σ) : Session S σ × Response S σ := (x, ⟨r, [], []⟩)

/-- A look of a wait at a place. -/
def evaluate (x : Session S σ) (place : Nat) (w : Wait S σ) (input : Input S) :
    Session S σ × Response S σ :=
  let turn := w.evaluate (input.resolve w.memory) x.source.lookup
  let source := x.source.askedAll turn.asked
  (⟨source, x.waits.set place (some (w.after turn))⟩,
    ⟨.evaluated turn.decision turn.memory source.calls, turn.log, turn.asked⟩)

/-- One operation. -/
def step (x : Session S σ) : Operation S → Session S σ × Response S σ
  | .evaluate place input =>
      match x.wait? place with
      | some w => x.evaluate place w input
      | none => x.quiet .noWait
  | .state place =>
      match x.wait? place with
      | some w => x.quiet (.state w.memory x.source.calls)
      | none => x.quiet .noWait
  | .config place =>
      match x.wait? place with
      | some w => x.quiet (.config w.config)
      | none => x.quiet .noWait
  | .consume place =>
      match x.wait? place with
      | some w => quiet ⟨x.source, x.waits.set place none⟩ (.consumed w.memory.lastSeen)
      | none => x.quiet .noWait
  | .upsert snapshot =>
      match x.source.backing with
      | .store store =>
          let (stored, store') := store.upsert snapshot
          quiet ⟨⟨.store store', x.source.calls⟩, x.waits⟩ (.upserted stored store'.ids)
      | .script _ => x.quiet .otherSource
  | .remove id =>
      match x.source.backing with
      | .store store =>
          let store' := store.erase id
          quiet ⟨⟨.store store', x.source.calls⟩, x.waits⟩ (.removed (store.get? id) store'.ids)
      | .script _ => x.quiet .otherSource
  | .append answer =>
      match x.source.backing with
      | .store _ => x.quiet .otherSource
      | .script answers => quiet ⟨⟨.script (answers ++ [answer]), x.source.calls⟩, x.waits⟩ .appended
  | .refresh id layers =>
      let reply : Reply S σ := Layer.wrap layers x.source.lookup id
      let source := x.source.asked
      (⟨source, x.waits⟩, ⟨.refreshed reply.answer source.calls, reply.log, [id]⟩)

/-- Operations one after the other, with their responses. -/
def run (x : Session S σ) : List (Operation S) → Session S σ × List (Response S σ)
  | [] => (x, [])
  | op :: ops =>
      let (x', r) := x.step op
      let (y, rs) := x'.run ops
      (y, r :: rs)

end Session

end StatusWait
