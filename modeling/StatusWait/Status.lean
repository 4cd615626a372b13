/-!
# Lifecycle statuses

A remote resource is always in one status of its kind. Each kind has a closed
enumeration of statuses, and each enumeration has a catch-all for the statuses that a
newer provider knows and this library does not.

## The model

`Status σ` says that `σ` is the enumeration of one kind: its members in order of
declaration, their spellings on the wire, the catch-all, and the statuses that end a
wait unless the caller says otherwise. Its laws are what every decoder relies on: no
status is missing from the list, no two statuses share a spelling, and a spelling is
made of capital letters.
-/

namespace StatusWait

/-- The statuses of one kind of resource. -/
class Status (σ : Type) where
  /-- What the kind is called in messages, in lower case. -/
  kind : String
  /-- Every status, in order of declaration. -/
  all : List σ
  /-- The spelling of a status on the wire. -/
  wire : σ → String
  /-- The name of a status, capitalised. -/
  label : σ → String
  /-- The catch-all for every spelling that names no status. -/
  unrecognized : σ
  /-- The statuses that end a wait when the caller names none. -/
  defaultInvalid : List σ
  mem_all : ∀ s : σ, s ∈ all
  wire_injective : ∀ {s t : σ}, wire s = wire t → s = t
  /-- A spelling is made of capital letters. -/
  wire_upper : ∀ s : σ, (wire s).toList.all Char.isUpper = true
  unrecognized_not_mem_defaultInvalid : unrecognized ∉ defaultInvalid

namespace Status

variable {σ : Type} [Status σ]

/-- The status that a wire spelling names exactly, if it names one. -/
def named? (s : String) : Option σ := (all (σ := σ)).find? fun t => wire t == s

/-- The status of a wire spelling; a text that names none stands for the catch-all. -/
def ofWire (s : String) : σ := (named? s).getD unrecognized

theorem named?_eq_some_iff {s : String} {t : σ} : named? s = some t ↔ wire t = s := by
  constructor
  · intro h
    simpa using List.find?_some h
  · intro h
    cases hf : (named? s : Option σ) with
    | none => exact absurd h (by simpa using List.find?_eq_none.1 hf t (mem_all t))
    | some u =>
      have hu : wire u = s := by simpa using List.find?_some hf
      rw [wire_injective (hu.trans h.symm)]

/-- Writing a status and decoding what was written gives it back. -/
@[simp] theorem ofWire_wire (t : σ) : ofWire (wire t) = t := by
  simp [ofWire, named?_eq_some_iff.2 rfl]

theorem ofWire_eq_unrecognized {s : String} (h : ∀ t : σ, wire t ≠ s) :
    (ofWire s : σ) = unrecognized := by
  have : (named? s : Option σ) = none :=
    Option.eq_none_iff_forall_ne_some.2 fun t ht => h t (named?_eq_some_iff.1 ht)
  simp [ofWire, this]

end Status

end StatusWait
