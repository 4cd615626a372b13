import StatusWait.Refresh.Lookup

/-!
# The store of snapshots

A source that keeps the last snapshot of each resource in memory.

## The model

The store is a list of snapshots with their identities, which ascend strictly in the
order of code points. A snapshot without an identity cannot be stored.
-/

namespace StatusWait

/-- Snapshots by identity. -/
structure Store (S : Type) where
  /-- The snapshots with their identities, in ascending order of identity. -/
  entries : List (String × S)
deriving DecidableEq, Repr

namespace Store

variable {S σ : Type} [Snapshot S σ]

/-- The store with nothing in it. -/
def empty : Store S := ⟨[]⟩

/-- Put a snapshot at its place among ascending entries, instead of one of the same
identity. -/
def place (id : String) (s : S) : List (String × S) → List (String × S)
  | [] => [(id, s)]
  | e :: es =>
      if id < e.1 then (id, s) :: e :: es
      else if id = e.1 then (id, s) :: es
      else e :: place id s es

/-- Keep a snapshot under its own identity; the flag says whether it has one. -/
def upsert (s : S) (store : Store S) : Bool × Store S :=
  match Snapshot.id? s with
  | some id => (true, ⟨place id s store.entries⟩)
  | none => (false, store)

/-- The snapshot of an identity. -/
def get? (store : Store S) (id : String) : Option S := List.lookup id store.entries

/-- Forget the snapshot of an identity. -/
def erase (id : String) (store : Store S) : Store S :=
  ⟨store.entries.filter fun e => e.1 != id⟩

/-- The identities that have a snapshot. -/
def ids (store : Store S) : List String := store.entries.map Prod.fst

/-- What a lookup finds in the store. -/
def lookup (store : Store S) (id : String) : Answer S :=
  match store.get? id with
  | some s => .found s
  | none => .gone

end Store

end StatusWait
