import StatusWait.Snapshot.Node
import StatusWait.Wait

/-!
# One look

What one look of a wait can do, said once for everything that is proved about waits.

## What is proved

A look has one of three shapes. Without a subject it leaves what is remembered alone, and fails
exactly when there has been a lookup (`evaluate_absent`). A subject whose status decides is
remembered (`evaluate_decided`). Any other subject is looked up once, and what comes of the
answer comes of the look (`evaluate_transitional`).

* `decision_of_subject` — a look with a subject decides as the snapshot calls for that it
  remembers, and answers `Retry` if it remembers none.
* `lastSeen_weigh_eq_none_iff` and `id?_of_lastSeen_weigh` — a lookup empties the memory exactly
  when the resource is gone, and never puts another identity there.
-/

namespace StatusWait

variable {S σ : Type}

/-! ### The memory -/

namespace Memory

variable {m : Memory S} {s : Option S}

@[simp] theorem lastSeen_fresh : (fresh : Memory S).lastSeen = none := rfl

@[simp] theorem refreshAttempted_fresh : (fresh : Memory S).refreshAttempted = false := rfl

@[simp] theorem lastSeen_looked : m.looked.lastSeen = m.lastSeen := rfl

@[simp] theorem refreshAttempted_looked : m.looked.refreshAttempted = m.refreshAttempted := rfl

@[simp] theorem lastSeen_remember : (m.remember s).lastSeen = s := rfl

@[simp] theorem refreshAttempted_remember :
    (m.remember s).refreshAttempted = m.refreshAttempted := rfl

@[simp] theorem refreshAttempted_lookedUp : m.lookedUp.refreshAttempted = true := rfl

end Memory

/-! ### The subject -/

section

variable [Snapshot S σ] {m : Memory S} {input : Option S} {id : String} {s : S}

theorem bind_identified?_eq_some_iff :
    input.bind Snapshot.identified? = some (id, s) ↔ input = some s ∧ Snapshot.id? s = some id := by
  cases input with
  | none => simp
  | some t =>
    simp only [Option.bind_some, Snapshot.identified?_eq_some_iff, Option.some.injEq]
    constructor
    · rintro ⟨h, rfl⟩
      exact ⟨rfl, h⟩
    · rintro ⟨rfl, h⟩
      exact ⟨h, rfl⟩

/-- The identity of the subject is the one of the input, or else the one in memory. -/
theorem subject?_map_fst : (subject? m input).map Prod.fst =
    (input.bind Snapshot.id? <|> m.lastSeen.bind Snapshot.id?) := by
  have fst (o : Option S) : (o.bind Snapshot.identified?).map Prod.fst = o.bind Snapshot.id? := by
    cases o with
    | none => rfl
    | some t => cases h : Snapshot.id? t <;> simp [Snapshot.identified?, h]
  rw [subject?, ← fst input, ← fst m.lastSeen]
  cases input.bind Snapshot.identified? <;> rfl

theorem id?_of_subject? (h : subject? m input = some (id, s)) : Snapshot.id? s = some id := by
  rw [subject?, Option.orElse_eq_orElse, Option.orElse_eq_or, Option.or_eq_some_iff] at h
  rcases h with h | ⟨-, h⟩ <;> exact (bind_identified?_eq_some_iff.1 h).2

theorem subject?_eq_none_iff : subject? m input = none ↔
    input.bind Snapshot.id? = none ∧ m.lastSeen.bind Snapshot.id? = none := by
  rw [← Option.map_eq_none_iff (f := Prod.fst), subject?_map_fst]
  cases input.bind Snapshot.id? <;> simp

theorem subject?_some (h : Snapshot.id? s = some id) : subject? m (some s) = some (id, s) := by
  simp [subject?, Snapshot.identified?, h]

end

/-! ### What a status calls for -/

theorem Decision.isTerminal_iff {d : Decision} : d.isTerminal = true ↔ d ≠ .retry := by
  cases d <;> simp [isTerminal]

/-- The decision that a standing calls for. -/
def Standing.decision : Standing → Decision
  | target => .pass
  | invalid => .fail
  | transitional => .retry

namespace Config

variable [Snapshot S σ] [DecidableEq σ] [Status σ] {c : Config σ} {s : S}

omit [Snapshot S σ] in
theorem standing_eq_transitional_iff {t : σ} :
    c.standing t = .transitional ↔ t ≠ c.target ∧ t ∉ c.invalid := by
  rw [ne_eq, ← standing_eq_target_iff, ← standing_eq_invalid_iff]
  cases c.standing t <;> simp

/-- The decision that a snapshot calls for. -/
def verdict (c : Config σ) (s : S) : Decision := (c.standing (Snapshot.status s)).decision

theorem verdict_eq_pass_iff : c.verdict s = .pass ↔ Snapshot.status s = c.target := by
  rw [← standing_eq_target_iff, verdict]
  cases c.standing (Snapshot.status s) <;> simp [Standing.decision]

theorem verdict_eq_fail_iff : c.verdict s = .fail ↔ Snapshot.status s ∈ c.invalid := by
  rw [← standing_eq_invalid_iff, verdict]
  cases c.standing (Snapshot.status s) <;> simp [Standing.decision]

theorem verdict_eq_retry_iff :
    c.verdict s = .retry ↔ c.standing (Snapshot.status s) = .transitional := by
  rw [verdict]
  cases c.standing (Snapshot.status s) <;> simp [Standing.decision]

/-! ### What comes of a lookup -/

variable {id : String} {fresh stale : S} {answer : Answer S}

@[simp] theorem decision_settle : (c.settle id fresh).decision = c.verdict fresh := by
  simp only [settle, verdict]
  cases c.standing (Snapshot.status fresh) <;> rfl

@[simp] theorem lastSeen_settle : (c.settle id fresh).lastSeen = some fresh := by
  simp only [settle]
  cases c.standing (Snapshot.status fresh) <;> rfl

theorem weigh_found (h : Snapshot.id? fresh = some id) :
    c.weigh id stale (.found fresh) = c.settle id fresh := by
  simp [weigh, h]

/-- A lookup empties the memory exactly when the resource is gone. -/
theorem lastSeen_weigh_eq_none_iff : (c.weigh id stale answer).lastSeen = none ↔ answer = .gone := by
  cases answer with
  | found fresh => by_cases h : Snapshot.id? fresh = some id <;> simp [weigh, h]
  | gone => simp [weigh]
  | failed error => simp [weigh]

theorem id?_of_lastSeen_weigh (hs : Snapshot.id? stale = some id) {t : S}
    (h : (c.weigh id stale answer).lastSeen = some t) : Snapshot.id? t = some id := by
  cases answer with
  | found fresh =>
    by_cases hf : Snapshot.id? fresh = some id
    · rw [weigh_found hf, lastSeen_settle] at h
      exact Option.some.inj h ▸ hf
    · simp only [weigh, hf, if_false, Option.some.injEq] at h
      exact h ▸ hs
  | gone => simp [weigh] at h
  | failed error =>
    simp only [weigh, Option.some.injEq] at h
    exact h ▸ hs

/-- A lookup for a stale snapshot that decides nothing decides as the snapshot calls for that is
remembered. -/
theorem decision_weigh (hs : c.verdict stale = .retry) : (c.weigh id stale answer).decision =
    (c.weigh id stale answer).lastSeen.elim .retry c.verdict := by
  cases answer with
  | found fresh => by_cases h : Snapshot.id? fresh = some id <;> simp [weigh, h, hs]
  | gone => rfl
  | failed error => simp [weigh, hs]

theorem decision_weigh_eq_iff {d : Decision} (hd : d ≠ .retry) :
    (c.weigh id stale answer).decision = d ↔
      ∃ f, answer = .found f ∧ Snapshot.id? f = some id ∧ c.verdict f = d := by
  cases answer with
  | found fresh => by_cases h : Snapshot.id? fresh = some id <;> simp [weigh, h, hd.symm]
  | gone => simp [weigh, hd.symm]
  | failed error => simp [weigh, hd.symm]

/-! ### The three shapes of a look -/

variable {m : Memory S} {input : Option S} {lookup : String → Reply S σ}

/-- A look without a subject fails exactly when there has been a lookup before. -/
theorem evaluate_absent (h : subject? m input = none) : c.evaluate m input lookup =
    if m.refreshAttempted then ⟨.fail, m.looked, [.gone c.target], []⟩
    else ⟨.retry, m.looked, [.nothingYet], []⟩ := by
  have h' : subject? m.looked input = none := h
  simp only [evaluate, h']
  rfl

/-- A subject whose status decides is remembered, and no lookup is made. -/
theorem evaluate_decided (h : subject? m input = some (id, s))
    (hs : c.standing (Snapshot.status s) ≠ .transitional) : c.evaluate m input lookup =
    ⟨c.verdict s, m.looked.remember (some s), [(c.settle id s).event], []⟩ := by
  have h' : subject? m.looked input = some (id, s) := h
  simp only [evaluate, h', verdict, settle]
  cases hc : c.standing (Snapshot.status s) with
  | target => rfl
  | invalid => rfl
  | transitional => exact absurd hc hs

/-- Any other subject is looked up once, by its identity. -/
theorem evaluate_transitional (h : subject? m input = some (id, s))
    (hs : c.standing (Snapshot.status s) = .transitional) : c.evaluate m input lookup =
    ⟨(c.weigh id s (lookup id).answer).decision,
      m.looked.lookedUp.remember (c.weigh id s (lookup id).answer).lastSeen,
      .inconclusive id (Snapshot.status s) :: (lookup id).log ++
        [(c.weigh id s (lookup id).answer).event], [id]⟩ := by
  have h' : subject? m.looked input = some (id, s) := h
  simp [evaluate, h', hs]

/-- **A look with a subject decides as the snapshot calls for that it remembers**, and answers
`Retry` if it remembers none. -/
theorem decision_of_subject (h : subject? m input = some (id, s)) :
    (c.evaluate m input lookup).decision =
      (c.evaluate m input lookup).memory.lastSeen.elim .retry c.verdict := by
  by_cases hs : c.standing (Snapshot.status s) = .transitional
  · rw [evaluate_transitional h hs]
    exact decision_weigh (verdict_eq_retry_iff.2 hs)
  · rw [evaluate_decided h hs]
    rfl

/-! ### A configuration at hand -/

/-- The configuration of a wait for a running node, which ends when the node breaks. -/
def untilRunning : Config NodeStatus := ⟨.running, [.error], by decide, by decide, by decide⟩

end Config

end StatusWait
