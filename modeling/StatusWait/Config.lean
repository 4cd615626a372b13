import StatusWait.Status
import StatusWait.Error
import StatusWait.TextSet

/-!
# Configurations

What a wait waits for, and what ends it early.

## The model

A configuration is a target and a set of invalid statuses. The catch-all is no target,
and the target is not invalid; so every status has one standing, and no status both
fulfils the wait and ends it. The set is kept in order of declaration, so that equal
configurations are equal values.
-/

namespace StatusWait

/-- The target of a wait and the statuses that end it early. -/
@[ext] structure Config (σ : Type) [DecidableEq σ] [Status σ] where
  target : σ
  /-- The statuses from which the target cannot be reached. -/
  invalid : List σ
  target_ne_unrecognized : target ≠ Status.unrecognized
  target_not_mem_invalid : target ∉ invalid
  /-- The set is kept in order of declaration. -/
  invalid_ordered : (Status.all.filter fun s => decide (s ∈ invalid)) = invalid

/-- Configurations are equal when their targets and their sets are. -/
instance {σ : Type} [DecidableEq σ] [Status σ] : DecidableEq (Config σ) := fun a b =>
  decidable_of_iff (a.target = b.target ∧ a.invalid = b.invalid) Config.ext_iff.symm

/-- How a target and a set of invalid statuses contradict each other. -/
inductive Conflict (σ : Type)
  /-- The target is the catch-all. -/
  | unwaitable (target : σ)
  /-- The target is one of the invalid statuses. -/
  | overlap (target : σ)
deriving DecidableEq, Repr

namespace Conflict

variable {σ : Type} [Status σ]

/-- The contradiction in words. -/
def reason : Conflict σ → String
  | unwaitable target => "target status " ++ Status.wire target ++ " can never be waited for"
  | overlap target => "target status " ++ Status.wire target ++ " is also listed as invalid"

/-- The contradiction as an error of the setup. -/
def toError (c : Conflict σ) : SetupError := .invalidConfig c.reason

end Conflict

/-- What a status means to a wait. -/
inductive Standing
  | target
  | invalid
  | transitional
deriving DecidableEq, Repr

namespace Config

variable {σ : Type} [DecidableEq σ] [Status σ]

/-- The configuration of a target and a list of invalid statuses, in any order and with
repetitions. -/
def new (target : σ) (invalid : List σ) : Except (Conflict σ) (Config σ) :=
  if hu : target = Status.unrecognized then .error (.unwaitable target)
  else if hm : target ∈ invalid then .error (.overlap target)
  else .ok
    { target := target
      invalid := Status.all.filter fun s => decide (s ∈ invalid)
      target_ne_unrecognized := hu
      target_not_mem_invalid := by simp [hm]
      invalid_ordered := by
        refine List.filter_congr fun s hs => ?_
        simp [hs] }

/-- The configuration of a target and the default invalid statuses. -/
def withDefaultInvalid (target : σ) : Except (Conflict σ) (Config σ) :=
  new target Status.defaultInvalid

/-- The status is the one waited for. -/
def isTarget (c : Config σ) (s : σ) : Bool := s = c.target

/-- The status ends the wait early. -/
def isInvalid (c : Config σ) (s : σ) : Bool := s ∈ c.invalid

/-- What a status means to the wait. -/
def standing (c : Config σ) (s : σ) : Standing :=
  if c.isTarget s then .target else if c.isInvalid s then .invalid else .transitional

/-- The spellings of the invalid statuses, in alphabetical order. -/
def invalidWires (c : Config σ) : List String := (TextSet.ofList (c.invalid.map Status.wire)).elems

/-! ### Small facts -/

theorem mem_filter_all {l : List σ} {s : σ} :
    s ∈ (Status.all.filter fun s => decide (s ∈ l)) ↔ s ∈ l := by
  simp [Status.mem_all s]

/-- A configuration is the one of its own target and invalid statuses. -/
theorem new_self (c : Config σ) : new c.target c.invalid = .ok c := by
  rw [new, dif_neg c.target_ne_unrecognized, dif_neg c.target_not_mem_invalid]
  exact congrArg Except.ok (Config.ext rfl c.invalid_ordered)

theorem standing_eq_target_iff {c : Config σ} {s : σ} : c.standing s = .target ↔ s = c.target := by
  unfold standing isTarget isInvalid
  split
  · simp_all
  · split <;> simp_all

theorem standing_eq_invalid_iff {c : Config σ} {s : σ} : c.standing s = .invalid ↔ s ∈ c.invalid := by
  unfold standing isTarget isInvalid
  split
  · next h =>
    have : s = c.target := by simpa using h
    simp [this, c.target_not_mem_invalid]
  · split <;> simp_all

end Config

end StatusWait
