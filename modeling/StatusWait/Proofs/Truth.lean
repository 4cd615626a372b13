import StatusWait.Proofs.Layers
import StatusWait.Proofs.Survival
import StatusWait.Proofs.Trouble

/-!
# Waits over a store see the truth

A store answers every question about a resource with what was last written about it. This module joins the
store with the waits that look resources up in it: such a wait is never in trouble.

## The model

`Session.Undecided` says that the next look of a wait, given some input, has a subject of a certain
identity in a status that decides nothing; that look has to make a lookup.

## What is proved

* `Store.not_inconclusive_lookup` — a store that was empty once never fails, and never answers about
  another resource.
* `Session.level_ne_warn_of_mem_log` — so no operation over it warns.
* `Session.step_of_undecided` — what comes of the answer of the source comes of the look.
* `Survives.status_stays` — a status stays as long as nothing but the same status is written over it.
-/

namespace StatusWait

variable {S σ : Type} [Snapshot S σ]

/-! ### The answers of a store -/

section

variable {ops later : List (Operation S)} {id : String} {s : S}

theorem Survives.status_stays {status : σ} (h : ∃ s, Survives ops id s ∧ Snapshot.status s = status)
    (hlater : ∀ op ∈ later, op.changes? = some id →
      ∃ s, op = .upsert s ∧ Snapshot.status s = status) :
    ∃ s, Survives (ops ++ later) id s ∧ Snapshot.status s = status := by
  induction later using List.reverseRecOn with
  | nil => simpa using h
  | append_singleton later op ih =>
    obtain ⟨s, hs, hstatus⟩ := ih fun op' hop' => hlater op' (List.mem_append_left _ hop')
    rw [← List.append_assoc]
    by_cases hop : op.changes? = some id
    · obtain ⟨t, rfl, ht⟩ := hlater op (by simp) hop
      exact ⟨t, .concat_upsert hop, ht⟩
    · exact ⟨s, hs.concat hop, hstatus⟩

namespace Store

theorem lookup_of_survives (h : Survives ops id s) : (empty.after ops).lookup id = .found s := by
  rw [lookup, (get?_after ops).2 h]

theorem lookup_of_not_survives (h : ∀ s, ¬ Survives ops id s) :
    ((empty : Store S).after ops).lookup id = .gone := by
  rw [lookup, get?_after_eq_none_iff.2 h]

/-- **A store never fails, and never answers about another resource.** -/
theorem not_inconclusive_lookup (ops : List (Operation S)) (id : String) :
    ¬ (((empty : Store S).after ops).lookup id).Inconclusive id := by
  by_cases h : ∃ s, Survives ops id s
  · obtain ⟨s, hs⟩ := h
    rw [lookup_of_survives hs]
    exact fun hne => hne hs.identity
  · rw [lookup_of_not_survives (not_exists.1 h)]
    exact False.elim

end Store

end

/-! ### Nothing to warn of -/

section

variable {id : String} {answer : Answer S}

theorem Layer.level_ne_warn_of_mem_traces {n : Nat} {e : Event σ} (h : ¬ answer.Inconclusive id)
    (he : e ∈ traces n id answer) : e.level ≠ .warn := by
  rcases List.mem_append.1 he with he | he
  · rw [List.eq_of_mem_replicate he]
    simp [Event.level]
  · rw [List.eq_of_mem_replicate he]
    intro hwarn
    obtain ⟨error, rfl⟩ := level_outcome_eq_warn_iff.1 hwarn
    exact h trivial

variable [DecidableEq σ] [Status σ]

theorem Config.level_settle_ne_warn (c : Config σ) (id : String) (fresh : S) :
    (c.settle id fresh).event.level ≠ .warn := by
  simp only [settle]
  cases c.standing (Snapshot.status fresh) <;> simp [Event.level]

theorem Config.level_weigh_ne_warn (c : Config σ) (stale : S) (h : ¬ answer.Inconclusive id) :
    (c.weigh id stale answer).event.level ≠ .warn := by
  cases answer with
  | found fresh =>
    rw [weigh_found (not_not.1 h)]
    exact c.level_settle_ne_warn id fresh
  | gone => simp [weigh, Event.level]
  | failed error => exact absurd trivial h

/-- A look does not warn, unless it gets an inconclusive answer. -/
theorem Wait.level_ne_warn_of_mem_log (w : Wait S σ) {input : Option S} {lookup : String → Answer S}
    (h : ∀ id, ¬ (lookup id).Inconclusive id) :
    ∀ e ∈ (w.evaluate input lookup).log, e.level ≠ .warn := by
  unfold evaluate
  cases hs : subject? w.memory input with
  | none =>
    rw [Config.evaluate_absent hs]
    split <;> simp [Event.level]
  | some p =>
    obtain ⟨id, s⟩ := p
    by_cases ht : w.config.standing (Snapshot.status s) = .transitional
    · rw [Config.evaluate_transitional hs ht, Layer.wrap_eq]
      intro e he
      rcases List.mem_append.1 he with he | he
      · rcases List.mem_cons.1 he with rfl | he
        · simp [Event.level]
        · exact Layer.level_ne_warn_of_mem_traces (h id) he
      · rw [List.mem_singleton.1 he]
        exact w.config.level_weigh_ne_warn s (h id)
    · rw [Config.evaluate_decided hs ht]
      intro e he
      rw [List.mem_singleton.1 he]
      exact w.config.level_settle_ne_warn id s

end

/-! ### Sessions over a store -/

namespace Session

variable [DecidableEq σ] [Status σ] {y : Session S σ} {p : Nat} {w : Wait S σ} {input : Input S}
  {id : String}

/-- No operation warns, unless the source has an inconclusive answer. -/
theorem level_ne_warn_of_mem_log (h : ∀ id, ¬ (y.source.lookup id).Inconclusive id)
    (op : Operation S) : ∀ e ∈ (y.step op).2.log, e.level ≠ .warn := by
  cases op with
  | evaluate q input =>
    cases hw : y.wait? q with
    | none =>
      rw [step_of_no_wait rfl hw]
      exact fun e he => (List.not_mem_nil he).elim
    | some w =>
      rw [step_evaluate hw]
      exact w.level_ne_warn_of_mem_log h
  | state q | config q | consume q =>
    cases hw : y.wait? q <;>
      · simp only [step, hw]
        exact fun e he => (List.not_mem_nil he).elim
  | upsert | remove | append =>
    cases hb : y.source.backing <;>
      · simp only [step, hb]
        exact fun e he => (List.not_mem_nil he).elim
  | refresh id layers =>
    have hlog : (y.step (.refresh id layers)).2.log =
        (Layer.wrap layers y.source.lookup id : Reply S σ).log := rfl
    rw [hlog, Layer.wrap_eq]
    exact fun e he => Layer.level_ne_warn_of_mem_traces (h id) he

/-- The next look of the wait at a place, given this input, has a subject of this identity in a status that
decides nothing. -/
structure Undecided (y : Session S σ) (p : Nat) (w : Wait S σ) (input : Input S) (id : String) :
    Prop where
  /-- The wait is there. -/
  wait : y.wait? p = some w
  /-- The status of the subject is neither the target nor invalid. -/
  subject : ∃ t, subject? w.memory (input.resolve w.memory) = some (id, t) ∧
    Snapshot.status t ≠ w.config.target ∧ Snapshot.status t ∉ w.config.invalid

theorem step_of_undecided (h : y.Undecided p w input id) :
    ∃ t : S,
      let outcome := w.config.weigh id t (y.source.lookup id)
      let m := w.memory.looked.lookedUp.remember outcome.lastSeen
      (y.step (.evaluate p input)).2.result = .evaluated outcome.decision m (y.source.calls + 1) ∧
      (y.step (.evaluate p input)).1.wait? p = some ⟨w.config, w.layers, m⟩ := by
  obtain ⟨hw, t, hs, ht⟩ := h
  have hturn : w.evaluate (input.resolve w.memory) y.source.lookup = _ :=
    Config.evaluate_transitional hs (Config.standing_eq_transitional_iff.2 ht)
  rw [Layer.answer_wrap] at hturn
  refine ⟨t, ?_⟩
  rw [step_evaluate hw, evaluate, wait?_set_self hw, hturn]
  exact ⟨rfl, rfl⟩

/-- An answer with a snapshot of the resource itself decides the look, and is remembered. -/
theorem step_of_found (h : y.Undecided p w input id) {s : S} (hs : y.source.lookup id = .found s)
    (hid : Snapshot.id? s = some id) :
    ∃ m : Memory S, (y.step (.evaluate p input)).2.result =
        .evaluated (w.config.verdict s) m (y.source.calls + 1) ∧
      (y.step (.evaluate p input)).1.wait? p = some ⟨w.config, w.layers, m⟩ ∧ m.lastSeen = some s := by
  obtain ⟨t, hresult, hwait⟩ := step_of_undecided h
  rw [hs, Config.weigh_found hid, Config.decision_settle, Config.lastSeen_settle] at hresult
  rw [hs, Config.weigh_found hid, Config.lastSeen_settle] at hwait
  exact ⟨_, hresult, hwait, rfl⟩

theorem step_of_gone (h : y.Undecided p w input id) (hs : y.source.lookup id = .gone) :
    ∃ m : Memory S, (y.step (.evaluate p input)).2.result =
        .evaluated .retry m (y.source.calls + 1) ∧
      (y.step (.evaluate p input)).1.wait? p = some ⟨w.config, w.layers, m⟩ ∧ m.lastSeen = none := by
  obtain ⟨t, hresult, hwait⟩ := step_of_undecided h
  rw [hs] at hresult hwait
  exact ⟨_, hresult, hwait, rfl⟩

/-- **A wait over a store sees the truth.** Waits share a store that is empty at the start, and any
operations are done. Then no operation warns, and no answer about a resource is an error or a snapshot of
another one. A look that has to make a lookup remembers the snapshot that survives in the store, and
decides by its status; where none survives, it remembers nothing and the wait goes on. So if a snapshot of
a resource survives, and after it nothing is written about the resource but snapshots of the same status,
then the next look that has to look the resource up passes if this status is its target, and fails if it
is invalid. -/
theorem looks_see_survivors (waits : List (Option (Wait S σ))) (ops : List (Operation S)) :
    let x : Session S σ := ⟨.ofStore, waits⟩
    let y := (x.run ops).1
    (∀ op, ∀ e ∈ (y.step op).2.log, e.level ≠ .warn) ∧
    (∀ id, ¬ (y.source.lookup id).Inconclusive id) ∧
    (∀ p w input id, y.Undecided p w input id →
      let r := y.step (.evaluate p input)
      (∀ s, Survives ops id s → ∃ d m calls, r.2.result = .evaluated d m calls ∧
        r.1.wait? p = some ⟨w.config, w.layers, m⟩ ∧ m.lastSeen = some s ∧
        (d = .pass ↔ Snapshot.status s = w.config.target) ∧
        (d = .fail ↔ Snapshot.status s ∈ w.config.invalid) ∧
        (d = .retry ↔ Snapshot.status s ≠ w.config.target ∧ Snapshot.status s ∉ w.config.invalid)) ∧
      ((∀ s, ¬ Survives ops id s) → ∃ m calls, r.2.result = .evaluated .retry m calls ∧
        r.1.wait? p = some ⟨w.config, w.layers, m⟩ ∧ m.lastSeen = none)) ∧
    ∀ id status later, (∃ s, Survives ops id s ∧ Snapshot.status s = status) →
      (∀ op ∈ later, op.changes? = some id → ∃ s, op = .upsert s ∧ Snapshot.status s = status) →
      let z := (x.run (ops ++ later)).1
      ∀ p w input, z.Undecided p w input id →
        ∃ d m calls, (z.step (.evaluate p input)).2.result = .evaluated d m calls ∧
          (status = w.config.target → d = .pass) ∧ (status ∈ w.config.invalid → d = .fail) := by
  intro x y
  have hrun (ops : List (Operation S)) (id : String) :
      (x.run ops).1.source.lookup id = (Store.empty.after ops).lookup id :=
    Source.lookup_of_store (backing_run rfl ops) id
  have htruth : ∀ id, ¬ (y.source.lookup id).Inconclusive id := by
    intro id
    rw [hrun]
    exact Store.not_inconclusive_lookup ops id
  refine ⟨level_ne_warn_of_mem_log htruth, htruth, ?_, ?_⟩
  · intro p w input id h
    refine ⟨fun s hs => ?_, fun hnone => ?_⟩
    · have hfound : y.source.lookup id = .found s := (hrun ops id).trans (Store.lookup_of_survives hs)
      obtain ⟨m, hresult, hwait, hlast⟩ := step_of_found h hfound hs.identity
      refine ⟨_, m, _, hresult, hwait, hlast, Config.verdict_eq_pass_iff, Config.verdict_eq_fail_iff, ?_⟩
      rw [Config.verdict_eq_retry_iff, Config.standing_eq_transitional_iff]
    · have hgone : y.source.lookup id = .gone :=
        (hrun ops id).trans (Store.lookup_of_not_survives hnone)
      obtain ⟨m, hresult, hwait, hlast⟩ := step_of_gone h hgone
      exact ⟨m, _, hresult, hwait, hlast⟩
  · intro id status later hstatus hlater z p w input h
    obtain ⟨s, hs, rfl⟩ := Survives.status_stays hstatus hlater
    have hfound : z.source.lookup id = .found s := (hrun _ id).trans (Store.lookup_of_survives hs)
    obtain ⟨m, hresult, -, -⟩ := step_of_found h hfound hs.identity
    exact ⟨_, m, _, hresult, Config.verdict_eq_pass_iff.2, Config.verdict_eq_fail_iff.2⟩

/-- Two waits share a store. The first is in transition, and the store has its node suspended; the
look sees that. The node breaks, and is written over as broken once more while the second wait looks at
another node; the next look of the first wait fails. -/
theorem looks_see_survivors_of_two :
    let waits : List (Option (Wait Node NodeStatus)) :=
      [some (.new .untilRunning [.tracing]), some (.new .untilRunning [])]
    let ops : List (Operation Node) := [.upsert (.new "n1" .suspended),
      .evaluate 0 (.given (some (.new "n1" .pending))), .upsert (.new "n1" .error)]
    let later : List (Operation Node) := [.evaluate 1 (.given (some (.new "n2" .pending))),
      .upsert ((Node.new "n1" .error).set (.name "first"))]
    let x : Session Node NodeStatus := ⟨.ofStore, waits⟩
    let z := (x.run (ops ++ later)).1
    (∃ w, z.Undecided 0 w .lastSeen "n1" ∧
      ∃ m calls, (z.step (.evaluate 0 .lastSeen)).2.result = .evaluated .fail m calls) ∧
    ∃ w, z.Undecided 1 w (.given (some (.new "n2" .pending))) "n2" ∧
      ∃ m calls, (z.step (.evaluate 1 (.given (some (.new "n2" .pending))))).2.result =
        .evaluated .retry m calls := by
  intro waits ops later x z
  have hstatus : ∃ s, Survives ops "n1" s ∧ Snapshot.status s = .error :=
    ⟨.new "n1" .error, ⟨ops.take 2, [], rfl, rfl, by simp⟩, rfl⟩
  have hlater : ∀ op ∈ later, op.changes? = some "n1" →
      ∃ s, op = .upsert s ∧ Snapshot.status s = .error := by
    intro op hop
    rcases List.mem_pair.1 hop with rfl | rfl
    · intro h
      cases h
    · exact fun _ => ⟨_, rfl, rfl⟩
  have hn2 : ∀ s, ¬ Survives (ops ++ later) "n2" s := Store.get?_after_eq_none_iff.1 (by decide)
  have hfirst : ∃ w, z.Undecided 0 w .lastSeen "n1" :=
    ⟨_, rfl, .new "n1" .suspended, rfl, by decide, by decide⟩
  have hsecond : ∃ w, z.Undecided 1 w (.given (some (.new "n2" .pending))) "n2" :=
    ⟨_, rfl, .new "n2" .pending, rfl, by decide, by decide⟩
  obtain ⟨w, hw⟩ := hfirst
  obtain ⟨v, hv⟩ := hsecond
  refine ⟨⟨w, hw, ?_⟩, v, hv, ?_⟩
  · obtain ⟨d, m, calls, hresult, -, hfail⟩ :=
      (looks_see_survivors waits ops).2.2.2 "n1" .error later hstatus hlater 0 w .lastSeen hw
    have hinvalid : NodeStatus.error ∈ w.config.invalid := by
      obtain rfl := Option.some.inj hw.wait
      decide
    rw [hfail hinvalid] at hresult
    exact ⟨m, calls, hresult⟩
  · obtain ⟨m, calls, hresult, -, -⟩ :=
      ((looks_see_survivors waits (ops ++ later)).2.2.1 1 v _ "n2" hv).2 hn2
    exact ⟨m, calls, hresult⟩

end Session

end StatusWait
