import StatusWait.Refresh.Store

/-!
# Sources

What is behind the lookups of a session: a store, or a script of answers.

## The model

A source gives an answer to a question and counts the questions, in sixty-four bits
that wrap around. A store stays as it is when it is asked. A script gives one answer
after the other, whatever it is asked about; when it is used up, each question fails.
-/

namespace StatusWait

/-- Where the answers come from. -/
inductive Backing (S : Type)
  | store (store : Store S)
  | script (answers : List (Answer S))
deriving DecidableEq, Repr

/-- A source of answers. -/
structure Source (S : Type) where
  backing : Backing S
  /-- How many questions there have been. -/
  calls : UInt64
deriving DecidableEq, Repr

namespace Source

variable {S : Type}

/-- An empty store that has not been asked. -/
def ofStore : Source S := ⟨.store ⟨[]⟩, 0⟩

/-- A script that has not been asked. -/
def ofScript (answers : List (Answer S)) : Source S := ⟨.script answers, 0⟩

/-- The answer of a script that is used up. -/
def exhausted (id : String) : Answer S := .failed (.transport id "no scripted answer")

/-- What the source answers to the next question. -/
def lookup (source : Source S) (id : String) : Answer S :=
  match source.backing with
  | .store store => store.lookup id
  | .script [] => exhausted id
  | .script (answer :: _) => answer

/-- The source after one more question. -/
def asked (source : Source S) : Source S :=
  ⟨match source.backing with
    | .store store => .store store
    | .script answers => .script answers.tail, source.calls + 1⟩

/-- The source after as many questions as a list has. -/
def askedAll (source : Source S) : List String → Source S
  | [] => source
  | _ :: ids => source.asked.askedAll ids

end Source

end StatusWait
