import StatusWait.Proofs.Look

/-!
# The driver

The loop that callers run around a wait: look at a first snapshot, then at what the wait remembers,
until a decision is terminal.

## The model

`Wait.drive` is that loop with a limit on its ticks; a driver that is given up answers `Retry`. The
lookups of the wait get the answers of a sequence in order, `answers 0` first, and each answer is used
once. What the driver tells is a `Report`: the last decision, the number of ticks, the identities that
were looked up, and what the wait remembers.

An answer is `Decisive` for a resource if it says that the resource is gone, or is a snapshot of the
resource itself whose status is the target or invalid. Errors, snapshots of other resources or of
none, and snapshots on their way are not.

## What is proved

The first decisive answer decides the wait. As long as there is none the driver is `Underway`: it has
a snapshot of the resource in hand that decides nothing, and each tick costs one lookup of the
resource (`Underway.drive_add`). A snapshot that decides ends the drive at its tick
(`Underway.drive_of_first_found`). That the resource is gone is noticed at its tick and ends the drive
at the next (`Underway.drive_of_first_gone`).
-/

namespace StatusWait

variable {S σ : Type}

/-- What a driver reports when it stops. -/
structure Report (S : Type) where
  /-- The last decision. -/
  decision : Decision
  /-- How many looks there were. -/
  ticks : Nat
  /-- The identities that were looked up, in order. -/
  asked : List String
  /-- What the wait remembers. -/
  lastSeen : Option S
deriving DecidableEq, Repr

/-- The report with looks before it, in which some identities were looked up. -/
def Report.later (r : Report S) (ticks : Nat) (asked : List String) : Report S :=
  ⟨r.decision, ticks + r.ticks, asked ++ r.asked, r.lastSeen⟩

theorem Report.later_later (r : Report S) (m n : Nat) (ids ids' : List String) :
    (r.later m ids).later n ids' = r.later (n + m) (ids' ++ ids) := by
  simp [later, Nat.add_assoc]

variable [Snapshot S σ] [DecidableEq σ] [Status σ]

/-- The driver: it looks at `seen`, and from then on at what the wait remembers, until a decision is
terminal or the last tick is over. The lookups get the answers in order. -/
def Wait.drive (w : Wait S σ) (seen : Option S) (answers : Nat → Answer S) : Nat → Report S
  | 0 => ⟨.retry, 0, [], w.memory.lastSeen⟩
  | limit + 1 =>
      let turn := w.evaluate seen fun _ => answers 0
      if turn.decision.isTerminal then ⟨turn.decision, 1, turn.asked, turn.memory.lastSeen⟩
      else
        ((w.after turn).drive turn.memory.lastSeen (fun i => answers (i + turn.asked.length))
          limit).later 1 turn.asked

/-- An answer that decides a wait for the resource `id`. -/
def Config.Decisive (c : Config σ) (id : String) : Answer S → Prop
  | .found fresh => Snapshot.id? fresh = some id ∧
      (Snapshot.status fresh = c.target ∨ Snapshot.status fresh ∈ c.invalid)
  | .gone => True
  | .failed _ => False

/-- A driver is about to look at a snapshot of `id` that decides nothing. -/
structure Wait.Underway (w : Wait S σ) (c : Config σ) (id : String) (s : S) : Prop where
  /-- The wait is for the target of `c`. -/
  config : w.config = c
  /-- The snapshot is one of `id`. -/
  identity : Snapshot.id? s = some id
  /-- It decides nothing. -/
  verdict : c.verdict s = .retry

variable {c : Config σ} {id : String} {stale : S}

theorem Config.weigh_of_not_decisive {answer : Answer S} (hid : Snapshot.id? stale = some id)
    (hv : c.verdict stale = .retry) (h : ¬ c.Decisive id answer) :
    ∃ t, (c.weigh id stale answer).decision = .retry ∧
      (c.weigh id stale answer).lastSeen = some t ∧ Snapshot.id? t = some id ∧
      c.verdict t = .retry := by
  cases answer with
  | found fresh =>
    by_cases hf : Snapshot.id? fresh = some id
    · have hvf : c.verdict fresh = .retry := by
        rw [verdict_eq_retry_iff, standing_eq_transitional_iff]
        exact not_or.1 fun hd => h ⟨hf, hd⟩
      exact ⟨fresh, by simp [weigh_found hf, hvf], by simp [weigh_found hf], hf, hvf⟩
    · exact ⟨stale, by simp [weigh, hf], by simp [weigh, hf], hid, hv⟩
  | gone => exact absurd trivial h
  | failed error => exact ⟨stale, rfl, rfl, hid, hv⟩

/-! ### One tick -/

namespace Wait

variable {w : Wait S σ} {answers : Nat → Answer S} {s : S}

theorem drive_of_decided (hid : Snapshot.id? s = some id) (hv : w.config.verdict s ≠ .retry)
    (n : Nat) : w.drive (some s) answers (n + 1) = ⟨w.config.verdict s, 1, [], some s⟩ := by
  have hs : w.config.standing (Snapshot.status s) ≠ .transitional :=
    fun hs => hv (Config.verdict_eq_retry_iff.2 hs)
  rw [drive, evaluate, Config.evaluate_decided (subject?_some hid) hs]
  exact if_pos (Decision.isTerminal_iff.2 hv)

/-- The look of a driver under way: the next answer is weighed, and the driver stops or goes on. -/
theorem Underway.drive_succ (h : w.Underway c id s) (answers : Nat → Answer S) : ∃ w' : Wait S σ,
    w'.config = c ∧ w'.memory.refreshAttempted = true ∧
    w'.memory.lastSeen = (c.weigh id s (answers 0)).lastSeen ∧
    ∀ n, w.drive (some s) answers (n + 1) =
      if (c.weigh id s (answers 0)).decision.isTerminal then
        ⟨(c.weigh id s (answers 0)).decision, 1, [id], w'.memory.lastSeen⟩
      else (w'.drive w'.memory.lastSeen (fun i => answers (i + 1)) n).later 1 [id] := by
  obtain ⟨rfl, hid, hv⟩ := h
  have hturn : w.evaluate (some s) (fun _ => answers 0) = _ :=
    Config.evaluate_transitional (subject?_some hid) (Config.verdict_eq_retry_iff.1 hv)
  rw [Layer.answer_wrap] at hturn
  refine ⟨w.after (w.evaluate (some s) fun _ => answers 0), rfl, ?_, ?_, fun n => ?_⟩
  · simp [hturn, after]
  · simp [hturn, after]
  · rw [drive, hturn]
    rfl

theorem Underway.drive_of_not_decisive (h : w.Underway c id s) (answers : Nat → Answer S)
    (ha : ¬ c.Decisive id (answers 0)) :
    ∃ (w' : Wait S σ) (t : S), w'.Underway c id t ∧ w'.memory.lastSeen = some t ∧
      ∀ n, w.drive (some s) answers (n + 1) =
        (w'.drive (some t) (fun i => answers (i + 1)) n).later 1 [id] := by
  obtain ⟨w', hc, -, hl, hdrive⟩ := h.drive_succ answers
  obtain ⟨t, hd, ht, hid, hv⟩ := Config.weigh_of_not_decisive h.identity h.verdict ha
  rw [ht] at hl
  refine ⟨w', t, ⟨hc, hid, hv⟩, hl, fun n => ?_⟩
  rw [hdrive, hd, hl]
  rfl

theorem Underway.drive_of_found (h : w.Underway c id s) (answers : Nat → Answer S) {fresh : S}
    (ha : answers 0 = .found fresh) (hid : Snapshot.id? fresh = some id)
    (hv : c.verdict fresh ≠ .retry) (n : Nat) :
    w.drive (some s) answers (n + 1) = ⟨c.verdict fresh, 1, [id], some fresh⟩ := by
  obtain ⟨w', -, -, hl, hdrive⟩ := h.drive_succ answers
  rw [ha, Config.weigh_found hid, Config.lastSeen_settle] at hl
  rw [hdrive, ha, Config.weigh_found hid, Config.decision_settle, hl,
    if_pos (Decision.isTerminal_iff.2 hv)]

/-- A resource that is gone costs one more tick, which has no subject and fails. -/
theorem Underway.drive_of_gone (h : w.Underway c id s) (answers : Nat → Answer S)
    (ha : answers 0 = .gone) :
    w.drive (some s) answers 1 = ⟨.retry, 1, [id], none⟩ ∧
      ∀ n, w.drive (some s) answers (n + 2) = ⟨.fail, 2, [id], none⟩ := by
  obtain ⟨w', -, ht, hl, hdrive⟩ := h.drive_succ answers
  rw [ha] at hl
  have hnone : w'.memory.lastSeen = none := hl
  have hlast (answers : Nat → Answer S) (n : Nat) :
      w'.drive none answers (n + 1) = ⟨.fail, 1, [], none⟩ := by
    have hsub : subject? w'.memory none = none := by simp [subject?, hnone]
    rw [drive, evaluate, Config.evaluate_absent hsub]
    simp [ht, hnone, Decision.isTerminal]
  refine ⟨?_, fun n => ?_⟩
  · rw [hdrive, ha, hnone]
    simp [Config.weigh, Decision.isTerminal, drive, hnone, Report.later]
  · rw [hdrive, ha, hnone, hlast]
    simp [Config.weigh, Decision.isTerminal, Report.later]

/-! ### The first decisive answer -/

/-- Answers that are not decisive cost one tick and one lookup each. -/
theorem Underway.drive_add (n : Nat) : ∀ {w : Wait S σ} {s : S} {answers : Nat → Answer S},
    w.Underway c id s → (∀ i < n, ¬ c.Decisive id (answers i)) →
    ∃ (w' : Wait S σ) (t : S), w'.Underway c id t ∧ ∀ limit, w.drive (some s) answers (n + limit) =
      (w'.drive (some t) (fun i => answers (i + n)) limit).later n (List.replicate n id) := by
  induction n with
  | zero =>
    intro w s answers h _
    exact ⟨w, s, h, fun limit => by simp [Report.later]⟩
  | succ n ih =>
    intro w s answers h hans
    obtain ⟨w₁, t₁, h₁, -, hfirst⟩ := h.drive_of_not_decisive answers (hans 0 (by omega))
    obtain ⟨w', t, h', hrest⟩ := ih h₁ fun i hi => hans (i + 1) (by omega)
    refine ⟨w', t, h', fun limit => ?_⟩
    rw [show n + 1 + limit = n + limit + 1 by omega, hfirst, hrest, Report.later_later,
      Nat.add_comm 1 n]
    rfl

theorem Underway.drive_of_none (h : w.Underway c id s) {n : Nat}
    (hans : ∀ i < n + 1, ¬ c.Decisive id (answers i)) : ∃ t, Snapshot.id? t = some id ∧
      c.verdict t = .retry ∧
      w.drive (some s) answers (n + 1) = ⟨.retry, n + 1, List.replicate (n + 1) id, some t⟩ := by
  obtain ⟨w₁, t₁, h₁, hfirst⟩ := drive_add n h fun i hi => hans i (by omega)
  have hn : ¬ c.Decisive id (answers (0 + n)) := hans _ (by omega)
  obtain ⟨w', t, h', hl, hlast⟩ := h₁.drive_of_not_decisive (fun i => answers (i + n)) hn
  refine ⟨t, h'.identity, h'.verdict, ?_⟩
  rw [hfirst, hlast 0, drive, hl]
  simp [Report.later, List.replicate_succ']

theorem Underway.drive_of_first_found (h : w.Underway c id s) {k : Nat} {fresh : S}
    (hans : ∀ i < k, ¬ c.Decisive id (answers i)) (ha : answers k = .found fresh)
    (hid : Snapshot.id? fresh = some id) (hv : c.verdict fresh ≠ .retry) (n : Nat) :
    w.drive (some s) answers (k + 1 + n) =
      ⟨c.verdict fresh, k + 1, List.replicate (k + 1) id, some fresh⟩ := by
  obtain ⟨w', t, h', hfirst⟩ := drive_add k h hans
  have hk : answers (0 + k) = .found fresh := by rw [Nat.zero_add, ha]
  rw [show k + 1 + n = k + (n + 1) by omega, hfirst,
    h'.drive_of_found (fun i => answers (i + k)) hk hid hv]
  simp [Report.later, List.replicate_succ']

/-- Where the first decisive answer is that the resource is gone, the driver ends one tick later. -/
theorem Underway.drive_of_first_gone (h : w.Underway c id s) {k : Nat}
    (hans : ∀ i < k, ¬ c.Decisive id (answers i)) (ha : answers k = .gone) :
    w.drive (some s) answers (k + 1) = ⟨.retry, k + 1, List.replicate (k + 1) id, none⟩ ∧
      ∀ n, w.drive (some s) answers (k + 2 + n) =
        ⟨.fail, k + 2, List.replicate (k + 1) id, none⟩ := by
  obtain ⟨w', t, h', hfirst⟩ := drive_add k h hans
  have hk : answers (0 + k) = .gone := by rw [Nat.zero_add, ha]
  obtain ⟨hretry, hfail⟩ := h'.drive_of_gone (fun i => answers (i + k)) hk
  refine ⟨?_, fun n => ?_⟩
  · rw [hfirst, hretry]
    simp [Report.later, List.replicate_succ']
  · rw [show k + 2 + n = k + (n + 2) by omega, hfirst, hfail]
    simp [Report.later, List.replicate_succ']

/-- **The first decisive answer decides the wait.** The driver of a new wait, around whatever layers,
is given a snapshot `x` of `id`. If `x` decides, the drive ends at the first tick without a lookup.
Otherwise let `answers k` be the first decisive answer. If it is a snapshot, the drive ends at tick
`k + 1` as the snapshot calls for, which is remembered; if it is that the resource is gone, the wait
goes on at tick `k + 1` and fails at tick `k + 2` with nothing in memory. All `k + 1` lookups ask for
`id`. While no answer is decisive the wait goes on, with a lookup of `id` at every tick. -/
theorem drive_first_decisive (c : Config σ) (layers : List Layer) (answers : Nat → Answer S)
    {x : S} {id : String} (hx : Snapshot.id? x = some id) :
    let drive := (Wait.new c layers).drive (some x) answers
    (Snapshot.status x = c.target → ∀ n, drive (n + 1) = ⟨.pass, 1, [], some x⟩) ∧
    (Snapshot.status x ∈ c.invalid → ∀ n, drive (n + 1) = ⟨.fail, 1, [], some x⟩) ∧
    (Snapshot.status x ≠ c.target ∧ Snapshot.status x ∉ c.invalid →
      (∀ k, c.Decisive id (answers k) → (∀ i < k, ¬ c.Decisive id (answers i)) →
        (∀ f, answers k = .found f → Snapshot.status f = c.target →
          ∀ n, drive (k + 1 + n) = ⟨.pass, k + 1, List.replicate (k + 1) id, some f⟩) ∧
        (∀ f, answers k = .found f → Snapshot.status f ∈ c.invalid →
          ∀ n, drive (k + 1 + n) = ⟨.fail, k + 1, List.replicate (k + 1) id, some f⟩) ∧
        (answers k = .gone →
          drive (k + 1) = ⟨.retry, k + 1, List.replicate (k + 1) id, none⟩ ∧
          ∀ n, drive (k + 2 + n) = ⟨.fail, k + 2, List.replicate (k + 1) id, none⟩)) ∧
      ∀ n, (∀ i < n + 1, ¬ c.Decisive id (answers i)) →
        ∃ s, Snapshot.id? s = some id ∧
          (Snapshot.status s ≠ c.target ∧ Snapshot.status s ∉ c.invalid) ∧
          drive (n + 1) = ⟨.retry, n + 1, List.replicate (n + 1) id, some s⟩) := by
  intro drive
  have hdecided {d : Decision} (hv : c.verdict x = d) (hd : d ≠ .retry) (n : Nat) :
      drive (n + 1) = ⟨d, 1, [], some x⟩ := by
    subst hv
    exact drive_of_decided hx hd n
  refine ⟨fun ht => hdecided (Config.verdict_eq_pass_iff.2 ht) (by decide),
    fun hi => hdecided (Config.verdict_eq_fail_iff.2 hi) (by decide), fun htr => ?_⟩
  have h : (Wait.new c layers).Underway c id x :=
    ⟨rfl, hx, Config.verdict_eq_retry_iff.2 (Config.standing_eq_transitional_iff.2 htr)⟩
  refine ⟨fun k hk hmin => ?_, fun n hn => ?_⟩
  · have hfound {f : S} {d : Decision} (ha : answers k = .found f) (hv : c.verdict f = d)
        (hd : d ≠ .retry) (n : Nat) :
        drive (k + 1 + n) = ⟨d, k + 1, List.replicate (k + 1) id, some f⟩ := by
      subst hv
      rw [ha] at hk
      exact h.drive_of_first_found hmin ha hk.1 hd n
    exact ⟨fun f ha ht => hfound ha (Config.verdict_eq_pass_iff.2 ht) (by decide),
      fun f ha hi => hfound ha (Config.verdict_eq_fail_iff.2 hi) (by decide),
      h.drive_of_first_gone hmin⟩
  · obtain ⟨t, hid, hv, hdrive⟩ := h.drive_of_none hn
    exact ⟨t, hid, Config.standing_eq_transitional_iff.1 (Config.verdict_eq_retry_iff.1 hv), hdrive⟩

/-- Three answers that decide nothing for the node "n1", and a last one for good: a lost lookup,
an answer about another node, one about the node still on its way. -/
def troubledAnswers (last : Answer Node) : Nat → Answer Node
  | 0 => .failed (.transport "n1" "timed out")
  | 1 => .found (.new "n2" .running)
  | 2 => .found (.new "n1" .suspended)
  | _ => last

theorem not_decisive_troubledAnswers (last : Answer Node) :
    ∀ i < 3, ¬ Config.untilRunning.Decisive "n1" (troubledAnswers last i)
  | 0, _ => fun h => h
  | 1, _ => fun h => absurd h.1 (by decide)
  | 2, _ => fun h => absurd h.2 (by decide)
  | i + 3, hi => absurd hi (by omega)

/-- After three answers that decide nothing the drive still goes on. That the node is up then ends it
at the fourth tick, and that it is gone ends it at the fifth, with four lookups each. -/
theorem drive_after_trouble :
    let drive (last : Answer Node) :=
      (Wait.new Config.untilRunning [.tracing]).drive (some (Node.new "n1" .pending))
        (troubledAnswers last)
    Snapshot.id? (Node.new "n1" .pending) = some "n1" ∧
    (∃ s, drive .gone 3 = ⟨.retry, 3, ["n1", "n1", "n1"], some s⟩) ∧
    drive (.found (.new "n1" .running)) 9 =
      ⟨.pass, 4, ["n1", "n1", "n1", "n1"], some (.new "n1" .running)⟩ ∧
    drive .gone 9 = ⟨.fail, 5, ["n1", "n1", "n1", "n1"], none⟩ := by
  have hid : Snapshot.id? (Node.new "n1" .pending) = some "n1" := rfl
  have hans := not_decisive_troubledAnswers
  obtain ⟨-, -, hup⟩ := drive_first_decisive Config.untilRunning [.tracing]
    (troubledAnswers (.found (.new "n1" .running))) hid
  obtain ⟨-, -, hgone⟩ := drive_first_decisive Config.untilRunning [.tracing]
    (troubledAnswers .gone) hid
  obtain ⟨hup, -⟩ := hup (by decide)
  obtain ⟨hgone, hnone⟩ := hgone (by decide)
  obtain ⟨s, -, -, hs⟩ := hnone 2 (hans .gone)
  refine ⟨hid, ⟨s, hs⟩, ?_, ?_⟩
  · exact (hup 3 ⟨rfl, .inl rfl⟩ (hans _)).1 _ rfl rfl 5
  · exact ((hgone 3 trivial (hans _)).2.2 rfl).2 4

end Wait

end StatusWait
