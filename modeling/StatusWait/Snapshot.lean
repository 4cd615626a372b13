import StatusWait.Status.Wire

/-!
# Snapshots

What a resource looked like at one moment.

## The model

A kind of snapshot gives each snapshot an identity, or none, and a status of the kind.
A wait uses nothing else. Every snapshot also has a JSON form.
-/

namespace StatusWait

/-- The snapshots of one kind of resource, whose statuses are `σ`. -/
class Snapshot (S : Type) (σ : outParam Type) where
  /-- The identity of the resource; the empty text is an identity too. -/
  id? : S → Option String
  status : S → σ
  toJson : S → Json.Value
  /-- The snapshot that a JSON value stands for. -/
  ofJson? : Json.Value → Option S

namespace Snapshot

variable {S σ : Type} [Snapshot S σ]

/-- A snapshot together with its identity. -/
def identified? (s : S) : Option (String × S) := (id? s).map (·, s)

/-- The compact JSON text of a snapshot. -/
def toText (s : S) : String := (toJson s).toText

/-- The snapshot that a JSON text stands for. -/
def read? (text : String) : Option S := Json.read text >>= ofJson?

@[simp] theorem identified?_eq_some_iff {s t : S} {id : String} :
    identified? s = some (id, t) ↔ id? s = some id ∧ s = t := by
  constructor
  · intro h
    obtain ⟨a, ha, e⟩ := Option.map_eq_some_iff.1 h
    obtain ⟨rfl, rfl⟩ := Prod.mk.inj e
    exact ⟨ha, rfl⟩
  · rintro ⟨h, rfl⟩
    simp [identified?, h]

end Snapshot

end StatusWait
