import Mathlib.Algebra.BigOperators.Group.Finset.Basic
import Mathlib.Algebra.BigOperators.Ring.Finset
import StatusWait.Proofs.Independence
import StatusWait.Proofs.Layers

/-!
# Counting looks and lookups

A wait counts its looks and its lookups, and remembers in a flag whether there has been a lookup; a
source counts the questions that it is asked. This module says what the three counters and the flag are
after any operations on any number of waits.

## The model

`looksAt` counts the operations that are looks of the wait at one place, `Session.lookupsAt` the lookups
that this wait made, and `looseLookups` the lookups without a wait. The counters of a wait saturate and
the one of the source wraps around, so they are compared with these numbers up to their greatest value
and modulo its successor. `Memory.Tallies` is what a memory says about both numbers.

## What is proved

* `Config.asked_evaluate` — a look makes one lookup if it has a subject that decides nothing, and none
  otherwise.
* `Memory.Tallies.evaluate`, `Session.tallies_step` and `Session.tallies_run` — the counters of a wait
  and its flag keep up with its looks and its lookups.
* `Session.toNat_calls_step` and `Session.toNat_calls_run` — the counter of the source keeps up with the lookups of
  all waits, those included that have come to their end, and the lookups without a wait.
-/

namespace StatusWait

variable {S σ : Type}

/-! ### Counting -/

namespace Operation

/-- The operation is a look of the wait at a place. -/
def isLookAt (p : Nat) : Operation S → Bool
  | evaluate place _ => place = p
  | state _ | config _ | consume _ | upsert _ | remove _ | append _ | refresh _ _ => false

/-- The operation is a lookup without a wait. -/
def isLookup : Operation S → Bool
  | refresh _ _ => true
  | evaluate _ _ | state _ | config _ | consume _ | upsert _ | remove _ | append _ => false

end Operation

/-- How many operations are looks of the wait at a place. -/
def looksAt (p : Nat) (ops : List (Operation S)) : Nat := ops.countP (Operation.isLookAt p)

/-- How many operations are lookups without a wait. -/
def looseLookups (ops : List (Operation S)) : Nat := ops.countP Operation.isLookup

/-- How many lookups the wait at a place made. -/
def Session.lookupsAt [Snapshot S σ] [DecidableEq σ] [Status σ] (x : Session S σ) (p : Nat)
    (ops : List (Operation S)) : Nat :=
  ((x.responsesAt p ops).map fun r => r.asked.length).sum

/-! ### One look -/

section

variable [Snapshot S σ] [DecidableEq σ] [Status σ]

/-- **A look makes one lookup if it has a subject that decides nothing, and none otherwise.** -/
theorem Config.asked_evaluate (c : Config σ) (m : Memory S) (input : Option S)
    (lookup : String → Reply S σ) : (c.evaluate m input lookup).asked =
      (subject? m input).elim [] fun q =>
        if Snapshot.status q.2 ≠ c.target ∧ Snapshot.status q.2 ∉ c.invalid then [q.1] else [] := by
  cases hs : subject? m input with
  | none =>
    rw [evaluate_absent hs]
    split <;> rfl
  | some q =>
    obtain ⟨id, s⟩ := q
    by_cases ht : c.standing (Snapshot.status s) = .transitional
    · rw [evaluate_transitional hs ht, Option.elim_some,
        if_pos (standing_eq_transitional_iff.1 ht)]
    · rw [evaluate_decided hs ht, Option.elim_some,
        if_neg fun h => ht (standing_eq_transitional_iff.2 h)]

theorem Config.length_asked_of_retry {c : Config σ} {m : Memory S} {input : Option S}
    {lookup : String → Reply S σ} (h : (c.evaluate m input lookup).decision = .retry) :
    (c.evaluate m input lookup).asked.length = 1 ∨ subject? m input = none := by
  cases hs : subject? m input with
  | none => exact .inr rfl
  | some q =>
    obtain ⟨id, s⟩ := q
    by_cases ht : c.standing (Snapshot.status s) = .transitional
    · rw [evaluate_transitional hs ht]
      exact .inl rfl
    · -- A subject that decides never lets the wait go on.
      rw [evaluate_decided hs ht] at h
      exact absurd (verdict_eq_retry_iff.1 h) ht

end

/-- A memory after `n` looks with `k` lookups, as far as its counters can tell. -/
structure Memory.Tallies (n k : Nat) (m : Memory S) : Prop where
  /-- The looks are counted up to the greatest value of a counter. -/
  evaluations : m.evaluations.toNat = min n counterMax
  /-- So are the lookups. -/
  refreshes : m.refreshes.toNat = min k counterMax
  /-- There were no more lookups than looks. -/
  lookups_le_looks : k ≤ n
  /-- The flag tells whether there was a lookup. -/
  attempted : m.refreshAttempted = true ↔ 0 < k

namespace Memory.Tallies

variable {n k : Nat} {m : Memory S}

theorem fresh : (Memory.fresh : Memory S).Tallies 0 0 :=
  ⟨rfl, rfl, le_rfl, by simp⟩

theorem remember (h : m.Tallies n k) (s : Option S) : (m.remember s).Tallies n k :=
  ⟨h.evaluations, h.refreshes, h.lookups_le_looks, h.attempted⟩

theorem looked (h : m.Tallies n k) : m.looked.Tallies (n + 1) k := by
  have he : m.looked.evaluations.toNat = min (n + 1) counterMax := by
    have hbump : m.looked.evaluations.toNat = min (m.evaluations.toNat + 1) counterMax :=
      toNat_bump m.evaluations
    rw [h.evaluations] at hbump
    omega
  exact ⟨he, h.refreshes, h.lookups_le_looks.trans n.le_succ, h.attempted⟩

/-- One more lookup, which needs a look without one. -/
theorem lookedUp (h : m.Tallies n k) (hk : k < n) : m.lookedUp.Tallies n (k + 1) := by
  have hr : m.lookedUp.refreshes.toNat = min (k + 1) counterMax := by
    have hbump : m.lookedUp.refreshes.toNat = min (m.refreshes.toNat + 1) counterMax :=
      toNat_bump m.refreshes
    rw [h.refreshes] at hbump
    omega
  exact ⟨h.evaluations, hr, hk, by simp⟩

theorem refreshes_le_evaluations (h : m.Tallies n k) : m.refreshes ≤ m.evaluations := by
  rw [UInt64.le_iff_toNat_le, h.refreshes, h.evaluations]
  have := h.lookups_le_looks
  omega

theorem attempted_iff (h : m.Tallies n k) : m.refreshAttempted = true ↔ 0 < m.refreshes := by
  have hmax : 0 < counterMax := by decide
  rw [h.attempted, UInt64.lt_iff_toNat_lt, h.refreshes, UInt64.toNat_zero]
  omega

variable [Snapshot S σ] [DecidableEq σ] [Status σ]

/-- **One more look is counted, and so is its lookup.** -/
theorem evaluate (h : m.Tallies n k) (c : Config σ) (input : Option S)
    (lookup : String → Reply S σ) :
    (c.evaluate m input lookup).memory.Tallies (n + 1)
      (k + (c.evaluate m input lookup).asked.length) := by
  cases hs : subject? m input with
  | none =>
    rw [Config.evaluate_absent hs]
    split <;> exact h.looked
  | some q =>
    obtain ⟨id, s⟩ := q
    by_cases ht : c.standing (Snapshot.status s) = .transitional
    · rw [Config.evaluate_transitional hs ht]
      exact (h.looked.lookedUp (Nat.lt_succ_of_le h.lookups_le_looks)).remember _
    · rw [Config.evaluate_decided hs ht]
      exact h.looked.remember _

end Memory.Tallies

/-! ### One operation -/

theorem Source.toNat_calls_askedAll (source : Source S) (ids : List String) :
    (source.askedAll ids).calls.toNat = (source.calls.toNat + ids.length) % 2 ^ 64 := by
  induction ids generalizing source with
  | nil => exact (Nat.mod_eq_of_lt source.calls.toNat_lt).symm
  | cons id ids ih =>
    have hone : source.asked.calls.toNat = (source.calls.toNat + 1) % 2 ^ 64 :=
      UInt64.toNat_add source.calls 1
    rw [askedAll, ih, hone, List.length_cons]
    omega

namespace Session

variable [DecidableEq σ] [Status σ] {x : Session S σ}

theorem wait?_eq_none_of_le {p : Nat} (h : x.waits.length ≤ p) : x.wait? p = none := by
  rw [wait?, List.getElem?_eq_none h]
  rfl

variable [Snapshot S σ] {op : Operation S} {p n k : Nat}

theorem length_waits_step (x : Session S σ) (op : Operation S) :
    (x.step op).1.waits.length = x.waits.length := by
  cases op with
  | evaluate q input =>
    cases hw : x.wait? q with
    | none => rw [step_of_no_wait rfl hw]; rfl
    | some w =>
      rw [step_evaluate hw]
      exact List.length_set
  | state q | config q =>
    cases hw : x.wait? q <;>
      · simp only [step, hw]
        rfl
  | consume q =>
    cases hw : x.wait? q with
    | none => rw [step_of_no_wait rfl hw]; rfl
    | some w =>
      simp only [step, hw]
      exact List.length_set
  | upsert | remove | append =>
    cases hb : x.source.backing <;>
      · simp only [step, hb]
        rfl
  | refresh => rfl

/-- **The source counts what an operation asks.** -/
theorem toNat_calls_step (x : Session S σ) (op : Operation S) :
    (x.step op).1.source.calls.toNat =
      (x.source.calls.toNat + (x.step op).2.asked.length) % 2 ^ 64 := by
  have hstay : x.source.calls.toNat = (x.source.calls.toNat + 0) % 2 ^ 64 :=
    (Nat.mod_eq_of_lt x.source.calls.toNat_lt).symm
  cases op with
  | evaluate q input =>
    cases hw : x.wait? q with
    | none =>
      rw [step_of_no_wait rfl hw]
      exact hstay
    | some w =>
      rw [step_evaluate hw]
      exact x.source.toNat_calls_askedAll _
  | state q | config q | consume q =>
    cases hw : x.wait? q <;>
      · simp only [step, hw]
        exact hstay
  | upsert | remove | append =>
    cases hb : x.source.backing <;>
      · simp only [step, hb]
        exact hstay
  | refresh id layers => exact x.source.toNat_calls_askedAll [id]

theorem length_asked_of_no_place (x : Session S σ) (hp : op.place? = none) :
    (x.step op).2.asked.length = if op.isLookup then 1 else 0 := by
  cases op with
  | evaluate | state | config | consume => cases hp
  | upsert | remove | append =>
    cases hb : x.source.backing <;>
      · simp only [step, hb]
        rfl
  | refresh => rfl

/-- What an operation asks is asked by the wait that it is for, or by no wait. -/
theorem length_asked_step (x : Session S σ) (op : Operation S) :
    (x.step op).2.asked.length = (if op.isLookup then 1 else 0) +
      ∑ p ∈ Finset.range x.waits.length,
        if op.place? = some p then (x.step op).2.asked.length else 0 := by
  cases hp : op.place? with
  | none => simp [x.length_asked_of_no_place hp]
  | some q =>
    have hloose : op.isLookup = false := by
      cases op with
      | refresh => cases hp
      | _ => rfl
    rw [hloose]
    simp only [Option.some.injEq, Finset.sum_ite_eq, Finset.mem_range, Bool.false_eq_true, if_false,
      Nat.zero_add]
    by_cases hq : q < x.waits.length
    · rw [if_pos hq]
    · rw [if_neg hq, step_of_no_wait hp (wait?_eq_none_of_le (Nat.le_of_not_lt hq))]
      rfl

/-- One more operation: the counters of a wait keep up with its looks and its lookups. -/
theorem tallies_step (h : ∀ w, x.wait? p = some w → w.memory.Tallies n k) (op : Operation S) :
    ∀ w, (x.step op).1.wait? p = some w → w.memory.Tallies (n + if op.isLookAt p then 1 else 0)
      (k + if op.place? = some p then (x.step op).2.asked.length else 0) := by
  by_cases hp : op.place? = some p
  · rw [if_pos hp]
    cases hw : x.wait? p with
    | none =>
      rw [step_of_no_wait hp hw]
      intro w hw'
      cases hw.symm.trans hw'
    | some w =>
      have hm : w.memory.Tallies n k := h w hw
      cases op with
      | evaluate q input =>
        obtain rfl : q = p := Option.some.inj hp
        rw [step_evaluate hw]
        simp only [Session.evaluate, wait?_set_self hw, Operation.isLookAt, decide_true, if_true]
        rintro v hv
        obtain rfl := Option.some.inj hv
        exact hm.evaluate w.config _ _
      | state q | config q =>
        obtain rfl : q = p := Option.some.inj hp
        simp only [step, hw]
        intro v hv
        exact h v hv
      | consume q =>
        obtain rfl : q = p := Option.some.inj hp
        simp only [step, hw]
        intro v hv
        cases (wait?_set_self hw _ _).symm.trans hv
      | upsert | remove | append | refresh => cases hp
  · have hlook : op.isLookAt p = false := by
      cases op with
      | evaluate q input => exact decide_eq_false fun hq => hp (congrArg some hq)
      | _ => rfl
    rw [if_neg hp, hlook, wait?_step_of_ne hp]
    exact h

/-! ### Runs -/

theorem lookupsAt_cons (x : Session S σ) (p : Nat) (op : Operation S) (ops : List (Operation S)) :
    x.lookupsAt p (op :: ops) = (if op.place? = some p then (x.step op).2.asked.length else 0) +
      (x.step op).1.lookupsAt p ops := by
  by_cases hp : op.place? = some p
  · rw [lookupsAt, responsesAt_cons_of_eq hp, List.map_cons, List.sum_cons, if_pos hp]
    rfl
  · rw [lookupsAt, responsesAt_cons_of_ne hp, if_neg hp, Nat.zero_add]
    rfl

/-- **After any operations the counters of a wait show its looks and its lookups.** -/
theorem tallies_run (ops : List (Operation S))
    (h : ∀ w, x.wait? p = some w → w.memory.Tallies n k) :
    ∀ w, (x.run ops).1.wait? p = some w →
      w.memory.Tallies (n + looksAt p ops) (k + x.lookupsAt p ops) := by
  induction ops generalizing x n k with
  | nil => exact h
  | cons op ops ih =>
    intro w hw
    have hrest := ih (tallies_step h op) w hw
    have hlooks : looksAt p (op :: ops) = (if op.isLookAt p then 1 else 0) + looksAt p ops := by
      rw [looksAt, List.countP_cons, Nat.add_comm]
      rfl
    rw [hlooks, lookupsAt_cons, ← Nat.add_assoc, ← Nat.add_assoc]
    exact hrest

/-- **After any operations the counter of the source shows the lookups of all waits and the lookups
without a wait.** -/
theorem toNat_calls_run (x : Session S σ) (ops : List (Operation S)) :
    (x.run ops).1.source.calls.toNat = (x.source.calls.toNat + (looseLookups ops +
      ∑ p ∈ Finset.range x.waits.length, x.lookupsAt p ops)) % 2 ^ 64 := by
  induction ops generalizing x with
  | nil =>
    have hnone : ∑ p ∈ Finset.range x.waits.length, x.lookupsAt p [] = 0 :=
      Finset.sum_eq_zero fun p _ => rfl
    rw [hnone]
    exact (Nat.mod_eq_of_lt x.source.calls.toNat_lt).symm
  | cons op ops ih =>
    have hrest := ih (x.step op).1
    have hasked := x.length_asked_step op
    have hloose : looseLookups (op :: ops) = (if op.isLookup then 1 else 0) + looseLookups ops := by
      rw [looseLookups, List.countP_cons, Nat.add_comm]
      rfl
    have hsum : ∑ p ∈ Finset.range x.waits.length, x.lookupsAt p (op :: ops) =
        (∑ p ∈ Finset.range x.waits.length,
          if op.place? = some p then (x.step op).2.asked.length else 0) +
        ∑ p ∈ Finset.range x.waits.length, (x.step op).1.lookupsAt p ops := by
      rw [← Finset.sum_add_distrib]
      exact Finset.sum_congr rfl fun p _ => x.lookupsAt_cons p op ops
    rw [length_waits_step, toNat_calls_step] at hrest
    show ((x.step op).1.run ops).1.source.calls.toNat = _
    rw [hrest, hloose, hsum]
    omega

omit [Snapshot S σ] in
theorem tallies_ofRecipes {source : Source S} {recipes : List (Recipe σ)} {w : Wait S σ}
    (h : (ofRecipes source recipes).wait? p = some w) : w.memory.Tallies 0 0 := by
  have hp : (recipes[p]?.map Recipe.wait?).join = some w := by
    rw [← List.getElem?_map]
    exact h
  obtain ⟨recipe, -, hw⟩ := Option.map_eq_some_iff.1 (Option.join_eq_some_iff.1 hp)
  rw [Recipe.eq_new_of_wait? hw]
  exact .fresh

/-- **Every lookup is accounted for.** Waits are put together in any ways around one store, and any
operations are done. Then one look more makes one lookup, which the source counts, if it has a subject
that is neither at the target nor invalid, and no lookup otherwise; so a look that goes on made one or
had no subject. Each wait has counted its looks and its lookups, up to the greatest value of a counter,
and never more lookups than looks; its flag tells whether it has counted a lookup. The source has counted,
up to multiples of 2^64, the lookups of all waits, those that have come to their end included, and the
lookups without a wait. -/
theorem lookups_accounted_for (recipes : List (Recipe σ)) (ops : List (Operation S)) :
    let x : Session S σ := ofRecipes .ofStore recipes
    let y := (x.run ops).1
    (∀ p input w, y.wait? p = some w →
      let subject := subject? w.memory (input.resolve w.memory)
      let r := y.step (.evaluate p input)
      (r.2.asked = subject.elim [] fun q =>
        if Snapshot.status q.2 ≠ w.config.target ∧ Snapshot.status q.2 ∉ w.config.invalid then [q.1]
        else []) ∧
      r.1.source.calls.toNat = (y.source.calls.toNat + r.2.asked.length) % 2 ^ 64 ∧
      ∀ m calls, r.2.result = .evaluated .retry m calls →
        r.2.asked.length = 1 ∨ subject = none) ∧
    (∀ p w, y.wait? p = some w →
      w.memory.evaluations.toNat = min (looksAt p ops) (2 ^ 64 - 1) ∧
      w.memory.refreshes.toNat = min (x.lookupsAt p ops) (2 ^ 64 - 1) ∧
      w.memory.refreshes ≤ w.memory.evaluations ∧
      (w.memory.refreshAttempted = true ↔ 0 < w.memory.refreshes)) ∧
    y.source.calls.toNat =
      (looseLookups ops + ∑ p ∈ Finset.range recipes.length, x.lookupsAt p ops) % 2 ^ 64 := by
  intro x y
  refine ⟨?_, ?_, ?_⟩
  · intro p input w hw subject r
    have hr : r = y.evaluate p w input := step_evaluate hw input
    refine ⟨?_, y.toNat_calls_step _, ?_⟩
    · rw [hr]
      exact w.config.asked_evaluate w.memory _ _
    · intro m calls hresult
      rw [hr] at hresult ⊢
      injection hresult with hretry
      exact Config.length_asked_of_retry hretry
  · intro p w hw
    have h : w.memory.Tallies (0 + looksAt p ops) (0 + x.lookupsAt p ops) :=
      tallies_run ops (fun w => tallies_ofRecipes) w hw
    rw [Nat.zero_add, Nat.zero_add] at h
    exact ⟨h.evaluations, h.refreshes, h.refreshes_le_evaluations, h.attempted_iff⟩
  · have hwaits : x.waits.length = recipes.length := List.length_map ..
    have hcalls := x.toNat_calls_run ops
    rw [hwaits] at hcalls
    rw [hcalls]
    exact congrArg (· % 2 ^ 64) (Nat.zero_add _)

/-- Two waits share a store. The first looks three times and makes two lookups; the second makes one, and
has come to its end when it is asked to look again; one lookup is without a wait. The source has counted
four. -/
theorem lookups_accounted_for_of_two :
    let recipes : List (Recipe NodeStatus) :=
      [.new .untilRunning [], .plan [.target .running, .lookup [.tracing]]]
    let ops : List (Operation Node) :=
      [.upsert (.new "n2" .suspended), .evaluate 0 (.given (some (.new "n1" .pending))),
        .evaluate 1 (.given (some (.new "n2" .pending))), .evaluate 0 .lastSeen, .consume 1,
        .evaluate 1 .lastSeen, .refresh "n2" [.shared],
        .evaluate 0 (.given (some (.new "n2" .pending)))]
    let y := ((ofRecipes .ofStore recipes).run ops).1
    ∃ w, y.wait? 0 = some w ∧
      (y.step (.evaluate 0 .lastSeen)).2.asked = ["n2"] ∧
      (w.memory.evaluations.toNat = 3 ∧ w.memory.refreshes.toNat = 2 ∧
        w.memory.refreshes ≤ w.memory.evaluations ∧
        (w.memory.refreshAttempted = true ↔ 0 < w.memory.refreshes)) ∧
      y.source.calls.toNat = 4 := by
  intro recipes ops y
  obtain ⟨hlook, htallies, hcalls⟩ := lookups_accounted_for recipes ops
  have hw : ∃ w, y.wait? 0 = some w := ⟨_, rfl⟩
  obtain ⟨w, hw⟩ := hw
  obtain ⟨hevaluations, hrefreshes, hle, hflag⟩ := htallies 0 w hw
  refine ⟨w, hw, ?_, ⟨hevaluations.trans (by decide), hrefreshes.trans (by decide), hle, hflag⟩,
    hcalls.trans (by decide)⟩
  obtain rfl := Option.some.inj hw
  exact (hlook 0 .lastSeen _ rfl).1

end Session

end StatusWait
