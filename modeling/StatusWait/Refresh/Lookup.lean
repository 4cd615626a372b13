import StatusWait.Error
import StatusWait.Event
import StatusWait.Snapshot

/-!
# Lookups

Asking for a fresh snapshot of a resource by its identity.

## The model

A lookup takes an identity and gives a reply: an answer, which is a snapshot, or that
the resource is gone, or an error, and the events that were logged on the way. Layers
may lie around a lookup. A tracing layer logs one event before and one after; a shared
layer and a client layer hand the question on. No layer changes the answer.
-/

namespace StatusWait

/-- What a lookup finds. -/
inductive Answer (S : Type)
  /-- A snapshot, which may be of another resource. -/
  | found (fresh : S)
  | gone
  | failed (error : PollError)
deriving DecidableEq, Repr

/-- An answer and the events logged on the way to it. -/
structure Reply (S σ : Type) where
  answer : Answer S
  /-- The events, in order. -/
  log : List (Event σ)
deriving DecidableEq, Repr

/-- Something around a lookup. -/
inductive Layer
  /-- Logs each question and each answer. -/
  | tracing
  /-- Shares one lookup among several owners. -/
  | shared
  /-- Asks a client of the kind's remote interface. -/
  | client
deriving DecidableEq, Repr

namespace Layer

variable {S σ : Type} [Snapshot S σ]

/-- The event that a tracing layer logs after an answer. -/
def outcome (id : String) : Answer S → Event σ
  | .found fresh => .refreshed id (Snapshot.status fresh)
  | .gone => .refreshedNothing id
  | .failed error => .refreshFailed id error.message

/-- A lookup with one layer around it. -/
def around (layer : Layer) (lookup : String → Reply S σ) (id : String) : Reply S σ :=
  match layer with
  | .tracing =>
      let reply := lookup id
      ⟨reply.answer, .refreshing id :: reply.log ++ [outcome id reply.answer]⟩
  | .shared | .client => lookup id

/-- A lookup that logs nothing, with layers around it, the outermost first. -/
def wrap (layers : List Layer) (lookup : String → Answer S) : String → Reply S σ :=
  layers.foldr around fun id => ⟨lookup id, []⟩

/-! ### Small facts -/

@[simp] theorem wrap_nil (lookup : String → Answer S) (id : String) :
    (wrap [] lookup id : Reply S σ) = ⟨lookup id, []⟩ := rfl

/-- Layers do not change the answer. -/
@[simp] theorem answer_wrap (layers : List Layer) (lookup : String → Answer S) (id : String) :
    (wrap layers lookup id : Reply S σ).answer = lookup id := by
  induction layers with
  | nil => rfl
  | cons layer layers ih => cases layer <;> exact ih

end Layer

end StatusWait
