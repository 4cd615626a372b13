import StatusWait.Proofs.Run

/-!
# What the memory tells of the past

A wait keeps one snapshot and one flag. This module says what the two tell of the looks before:
which resource is waited for, whether it is gone, and what the last decision was.

## The model

`Reflects es m` ties a memory to the record of the looks that led to it. It has three cases. No look
had a subject, and there has been no lookup; or the last look with a subject found that the resource
is gone, and nothing is remembered; or it left a snapshot of the resource whose identity was handed
in last.

## What is proved

* `Reflects.look` and `Reflects.of_run` — every look keeps the memory true to the record, so it is
  true to it in every reached state.
* A decision is what the snapshot calls for that is remembered after it, and where none is, the wait
  fails exactly when the look had no subject and there has been a lookup.
* Nothing is remembered exactly when nothing was ever seen or the resource is gone; so the flag, which
  only says that there has been some lookup, is enough to tell the two apart, and no trouble with
  lookups makes a wait fail.
* Only the identity that was handed in last is remembered and looked up (`latest_identity?_congr`: it
  depends on the inputs alone).
-/

namespace StatusWait

variable {S σ : Type} [Snapshot S σ]

/-- The identity that an input hands in from outside. What the wait itself remembers is not new. -/
def Input.identity? : Input S → Option String
  | given snapshot => snapshot.bind Snapshot.id?
  | lastSeen => none

/-- What a memory tells of the looks on record. -/
inductive Reflects (es : List (Entry S σ)) (m : Memory S) : Prop
  /-- No look had a subject. -/
  | unseen (hm : m.lastSeen = none) (ht : m.refreshAttempted = false)
      (he : latest Entry.ending? es = none) (ha : latest Entry.answer? es = none)
  /-- The last look with a subject found that the resource is gone. -/
  | gone (hm : m.lastSeen = none) (ht : m.refreshAttempted = true)
      (he : latest Entry.ending? es = some (some .gone)) (ha : latest Entry.answer? es = some .gone)
  /-- The last look with a subject left a snapshot of the resource that was handed in last. -/
  | seen {s : S} {id : String} {a : Option (Answer S)} (hm : m.lastSeen = some s)
      (hid : Snapshot.id? s = some id) (hi : latest Entry.identity? es = some id)
      (he : latest Entry.ending? es = some a) (ha : a ≠ some .gone)

theorem latest_ending?_eq_none_iff {es : List (Entry S σ)} :
    latest Entry.ending? es = none ↔ ∀ e ∈ es, e.subject? = none := by
  simp [latest_eq_none_iff, Entry.ending?]

namespace Reflects

variable {es : List (Entry S σ)} {m : Memory S} {id : String} {s : S}

theorem start : Reflects ([] : List (Entry S σ)) .fresh :=
  .unseen Memory.lastSeen_fresh Memory.refreshAttempted_fresh latest_nil latest_nil

/-! ### The three cases -/

theorem latest_identity?_of_lastSeen (h : Reflects es m) (hm : m.lastSeen = some s) :
    ∃ id, Snapshot.id? s = some id ∧ latest Entry.identity? es = some id := by
  cases h with
  | unseen hm' => simp [hm'] at hm
  | gone hm' => simp [hm'] at hm
  | @seen t id a hm' hid hi =>
    rw [hm', Option.some.injEq] at hm
    subst hm
    exact ⟨id, hid, hi⟩

/-- Nothing is remembered exactly when no look had a subject or the last one that had found that
the resource is gone. -/
theorem lastSeen_eq_none_iff (h : Reflects es m) : m.lastSeen = none ↔
    latest Entry.ending? es = none ∨ latest Entry.ending? es = some (some .gone) := by
  cases h with
  | unseen hm _ he => simp [hm, he]
  | gone hm _ he => simp [hm, he]
  | seen hm _ _ he ha => simp [hm, he, ha]

/-- While nothing is remembered, there has been a lookup exactly when the last answer was that the
resource is gone. -/
theorem refreshAttempted_iff (h : Reflects es m) (hm : m.lastSeen = none) :
    m.refreshAttempted = true ↔ latest Entry.answer? es = some .gone := by
  cases h with
  | unseen _ ht _ ha => simp [ht, ha]
  | gone _ ht _ ha => simp [ht, ha]
  | seen hm' => simp [hm'] at hm

theorem not_refreshAttempted_iff (h : Reflects es m) (hm : m.lastSeen = none) :
    m.refreshAttempted = false ↔ latest Entry.ending? es = none := by
  cases h with
  | unseen _ ht he => simp [ht, he]
  | gone _ ht he => simp [ht, he]
  | seen hm' => simp [hm'] at hm

/-! ### One more look -/

variable [DecidableEq σ] [Status σ] {c : Config σ} {l : Look S σ}

theorem lastSeen_of_absent (h : Reflects es m) (hs : (c.look m l).subject? = none) :
    m.lastSeen = none := by
  cases hm : m.lastSeen with
  | none => rfl
  | some s =>
    obtain ⟨id, hid, -⟩ := h.latest_identity?_of_lastSeen hm
    have hmem : m.lastSeen.bind Snapshot.id? = none := (subject?_eq_none_iff.1 hs).2
    rw [hm, Option.bind_some, hid] at hmem
    cases hmem

theorem latest_identity?_of_subject (h : Reflects es m)
    (hs : (c.look m l).subject? = some (id, s)) :
    latest Entry.identity? (es ++ [c.look m l]) = some id := by
  have hid : some id = ((c.look m l).identity? <|> m.lastSeen.bind Snapshot.id?) := by
    rw [← show (some (id, s)).map Prod.fst = some id from rfl, ← hs]
    exact subject?_map_fst
  rw [latest_concat]
  cases hi : (c.look m l).identity? with
  | some i =>
    rw [hi] at hid
    exact hid.symm
  | none =>
    -- The subject comes from the memory, whose identity is on record already.
    rw [hi] at hid
    cases hm : m.lastSeen with
    | none => simp [hm] at hid
    | some t =>
      obtain ⟨i, ht, hes⟩ := h.latest_identity?_of_lastSeen hm
      simp only [hm, Option.bind_some, ht] at hid
      rw [hes]
      exact hid.symm

theorem look_absent (h : Reflects es m) (hs : (c.look m l).subject? = none) :
    Reflects (es ++ [c.look m l]) (c.look m l).turn.memory := by
  have hend : (c.look m l).ending? = none := by simp [Entry.ending?, hs]
  have hans : (c.look m l).answer? = none := by simp [Config.answer?_look, hs]
  have hnone : m.lastSeen = none := h.lastSeen_of_absent hs
  rw [Config.memory_look_absent hs]
  cases h with
  | unseen hm ht he ha =>
    exact .unseen (by simpa using hm) (by simpa using ht)
      (by rw [latest_concat_of_none hend, he]) (by rw [latest_concat_of_none hans, ha])
  | gone hm ht he ha =>
    exact .gone (by simpa using hm) (by simpa using ht)
      (by rw [latest_concat_of_none hend, he]) (by rw [latest_concat_of_none hans, ha])
  | seen hm =>
    rw [hnone] at hm
    cases hm

theorem look_decided (h : Reflects es m) (hs : (c.look m l).subject? = some (id, s))
    (ht : c.standing (Snapshot.status s) ≠ .transitional) :
    Reflects (es ++ [c.look m l]) (c.look m l).turn.memory := by
  have hend : (c.look m l).ending? = some none := by simp [Entry.ending?, Config.answer?_look, hs, ht]
  have hi := h.latest_identity?_of_subject hs
  rw [Config.look_decided hs ht]
  exact .seen (by simp) (id?_of_subject? hs) hi (latest_concat_of_some hend) (by simp)

/-- After a lookup the memory is empty if the resource is gone, and has a snapshot of it if not. -/
theorem look_transitional (h : Reflects es m) (hs : (c.look m l).subject? = some (id, s))
    (ht : c.standing (Snapshot.status s) = .transitional) :
    Reflects (es ++ [c.look m l]) (c.look m l).turn.memory := by
  have hans : (c.look m l).answer? = some (l.lookup id).answer := by
    simp [Config.answer?_look, hs, ht]
  have hend : (c.look m l).ending? = some (some (l.lookup id).answer) := by
    simp [Entry.ending?, hs, hans]
  have hi := h.latest_identity?_of_subject hs
  rw [Config.look_transitional hs ht]
  cases hw : (c.weigh id s (l.lookup id).answer).lastSeen with
  | none =>
    rw [Config.lastSeen_weigh_eq_none_iff.1 hw] at hend hans
    exact .gone (by simp) (by simp) (latest_concat_of_some hend) (latest_concat_of_some hans)
  | some t =>
    refine .seen (by simp) (Config.id?_of_lastSeen_weigh (id?_of_subject? hs) hw) hi
      (latest_concat_of_some hend) ?_
    intro hg
    rw [Config.lastSeen_weigh_eq_none_iff.2 (Option.some.inj hg)] at hw
    cases hw

/-- **One more look keeps the memory true to the record.** -/
theorem look (c : Config σ) (h : Reflects es m) (l : Look S σ) :
    Reflects (es ++ [c.look m l]) (c.look m l).turn.memory := by
  cases hs : (c.look m l).subject? with
  | none => exact h.look_absent hs
  | some p =>
    obtain ⟨id, s⟩ := p
    by_cases ht : c.standing (Snapshot.status s) = .transitional
    · exact h.look_transitional hs ht
    · exact h.look_decided hs ht

theorem of_run (c : Config σ) (ls : List (Look S σ)) :
    Reflects (c.run .fresh ls) (c.after .fresh ls) := by
  simpa using c.run_induction (fun h l => h.look c l) start ls

/-- A look adds to the record the identity that is handed in from outside, and no other: where the
wait is given what it remembers, that identity is the last one already. -/
theorem latest_identity?_concat (h : Reflects es m)
    (hes : latest Entry.identity? es = latest Input.identity? (es.map fun e => e.look.input)) :
    latest Entry.identity? (es ++ [c.look m l]) =
      latest Input.identity? ((es ++ [c.look m l]).map fun e => e.look.input) := by
  rw [List.map_append, List.map_singleton, latest_concat, latest_concat, ← hes]
  show ((l.input.resolve m).bind Snapshot.id? <|> _) = (l.input.identity? <|> _)
  cases hl : l.input with
  | given s => rfl
  | lastSeen =>
    cases hm : m.lastSeen with
    | none => simp [Input.resolve, Input.identity?, hm]
    | some s =>
      obtain ⟨id, hid, hi⟩ := h.latest_identity?_of_lastSeen hm
      simp [Input.resolve, Input.identity?, hm, hid, hi]

/-! ### Decisions -/

theorem subject?_look_eq_none_iff (h : Reflects es m) :
    (c.look m l).subject? = none ↔ (c.look m l).identity? = none ∧ m.lastSeen = none := by
  constructor
  · intro hs
    exact ⟨(subject?_eq_none_iff.1 hs).1, h.lastSeen_of_absent hs⟩
  · rintro ⟨hi, hm⟩
    exact subject?_eq_none_iff.2 ⟨hi, by simp [Config.look, hm]⟩

theorem decision_of_lastSeen (h : Reflects es m) {t : S}
    (ht : (c.look m l).turn.memory.lastSeen = some t) :
    (c.look m l).turn.decision = c.verdict t := by
  cases hs : (c.look m l).subject? with
  | none =>
    rw [Config.memory_look_absent hs, Memory.lastSeen_looked, h.lastSeen_of_absent hs] at ht
    cases ht
  | some p =>
    rw [Config.decision_look hs, ht]
    rfl

/-- A look that remembers nothing fails if it had no subject and there has been a lookup. -/
theorem decision_of_lastSeen_none (ht : (c.look m l).turn.memory.lastSeen = none) :
    (c.look m l).turn.decision =
      if (c.look m l).subject? = none ∧ m.refreshAttempted = true then .fail else .retry := by
  cases hs : (c.look m l).subject? with
  | none =>
    rw [Config.look_absent hs]
    cases m.refreshAttempted <;> rfl
  | some p =>
    rw [Config.decision_look hs, ht]
    simp

/-- A look without a subject fails exactly when the last answer was that the resource is gone, and
goes on exactly when no look had a subject. -/
theorem decision_of_absent (h : Reflects es m) (hs : (c.look m l).subject? = none) :
    ((c.look m l).turn.decision = .fail ↔ latest Entry.answer? es = some .gone) ∧
      ((c.look m l).turn.decision = .retry ↔ ∀ e ∈ es, e.subject? = none) := by
  have hnone : m.lastSeen = none := h.lastSeen_of_absent hs
  rw [← h.refreshAttempted_iff hnone, ← latest_ending?_eq_none_iff,
    ← h.not_refreshAttempted_iff hnone, Config.look_absent hs]
  cases m.refreshAttempted <;> simp

end Reflects

namespace Config

variable [DecidableEq σ] [Status σ]

/-- **Every decision is the classification of what is remembered.** After every look of every run, a
remembered snapshot has an identity and its status is what was decided by; and where nothing is
remembered, the wait fails exactly when nothing with an identity was handed in or remembered and
there has been a lookup. -/
theorem decision_reflects_lastSeen (c : Config σ) (looks : List (Look S σ)) (l : Look S σ) :
    let m := c.after .fresh looks
    let e := c.look m l
    (∀ s, e.turn.memory.lastSeen = some s →
      (∃ id, Snapshot.id? s = some id) ∧
      (e.turn.decision = .pass ↔ Snapshot.status s = c.target) ∧
      (e.turn.decision = .fail ↔ Snapshot.status s ∈ c.invalid) ∧
      (e.turn.decision = .retry ↔ Snapshot.status s ≠ c.target ∧ Snapshot.status s ∉ c.invalid)) ∧
    (e.turn.memory.lastSeen = none →
      e.turn.decision ≠ .pass ∧
      (e.turn.decision = .fail ↔
        (e.identity? = none ∧ m.lastSeen = none) ∧ m.refreshAttempted = true) ∧
      (e.turn.decision = .retry ↔
        ¬ ((e.identity? = none ∧ m.lastSeen = none) ∧ m.refreshAttempted = true))) := by
  intro m e
  have hm : Reflects (c.run .fresh looks) m := .of_run c looks
  refine ⟨fun s hs => ?_, fun hs => ?_⟩
  · obtain ⟨id, hid, -⟩ := (hm.look c l).latest_identity?_of_lastSeen hs
    rw [hm.decision_of_lastSeen hs, ← standing_eq_transitional_iff]
    exact ⟨⟨id, hid⟩, verdict_eq_pass_iff, verdict_eq_fail_iff, verdict_eq_retry_iff⟩
  · have hsub : e.subject? = none ↔ e.identity? = none ∧ m.lastSeen = none :=
      hm.subject?_look_eq_none_iff
    rw [← hsub, Reflects.decision_of_lastSeen_none hs]
    by_cases h : e.subject? = none ∧ m.refreshAttempted = true
    · simp [e, h]
    · simp [e, h]

/-- After trouble with lookups the answer that the node is broken is remembered, and the look fails.
After the answer that the node is gone nothing is remembered, and a look at a node without an identity
fails. -/
theorem fail_of_error_and_of_loss :
    let broken := untilRunning.look (untilRunning.after .fresh troubledLooks)
      ⟨.lastSeen, fun id => ⟨.found (.new id .error), []⟩⟩
    let lost := untilRunning.look (untilRunning.after .fresh lostLooks)
      ⟨.given (some (.unidentified .running)), fun _ => ⟨.gone, []⟩⟩
    (broken.turn.memory.lastSeen = some (Node.new "n1" .error) ∧ broken.turn.decision = .fail) ∧
    (lost.turn.memory.lastSeen = none ∧ lost.turn.decision = .fail) := by
  intro broken lost
  have hbroken := (decision_reflects_lastSeen untilRunning troubledLooks broken.look).1 _ rfl
  have hlost := (decision_reflects_lastSeen untilRunning lostLooks lost.look).2 rfl
  exact ⟨⟨rfl, hbroken.2.2.1.2 (by decide)⟩, rfl, hlost.2.1.2 ⟨⟨rfl, rfl⟩, rfl⟩⟩

/-- **Absence means gone, never trouble.** In every reached state, nothing is remembered exactly when
no look had a subject or the last look that had one got the answer that the resource is gone. So a
look without a subject fails exactly when the last answer of the run was that, and goes on exactly
when no look had a subject. Besides, only the subject or a fresh snapshot of the same resource makes a
look fail, by an invalid status. -/
theorem lastSeen_eq_none_iff_gone (c : Config σ) (looks : List (Look S σ)) (l : Look S σ) :
    let es := c.run .fresh looks
    let m := c.after .fresh looks
    let e := c.look m l
    (m.lastSeen = none ↔
      (∀ e' ∈ es, e'.subject? = none) ∨ latest Entry.ending? es = some (some .gone)) ∧
    (e.subject? = none →
      (e.turn.decision = .fail ↔ latest Entry.answer? es = some .gone) ∧
      (e.turn.decision = .retry ↔ ∀ e' ∈ es, e'.subject? = none)) ∧
    (e.turn.decision = .fail ↔
      (∃ id s, e.subject? = some (id, s) ∧
        (Snapshot.status s ∈ c.invalid ∨
          ∃ f, e.answer? = some (.found f) ∧ Snapshot.id? f = some id ∧
            Snapshot.status f ∈ c.invalid)) ∨
      (e.subject? = none ∧ latest Entry.answer? es = some .gone)) := by
  intro es m e
  have hm : Reflects es m := .of_run c looks
  have habsent (hs : e.subject? = none) :
      (e.turn.decision = .fail ↔ latest Entry.answer? es = some .gone) ∧
      (e.turn.decision = .retry ↔ ∀ e' ∈ es, e'.subject? = none) := hm.decision_of_absent hs
  refine ⟨?_, habsent, ?_⟩
  · rw [hm.lastSeen_eq_none_iff, latest_ending?_eq_none_iff]
  · cases hs : e.subject? with
    | none => simp [habsent hs]
    | some p =>
      obtain ⟨id, s⟩ := p
      have hd : e.turn.decision = .fail ↔ _ := decision_look_eq_iff (by decide) hs
      simp only [verdict_eq_fail_iff] at hd
      rw [hd]
      constructor
      · intro h
        exact .inl ⟨id, s, rfl, h⟩
      · rintro (⟨_, _, hp, h⟩ | ⟨hp, -⟩)
        · cases hp
          exact h
        · cases hp

/-- After a lost lookup, an answer about another node and the answer that the node is gone, a look at
nothing fails. -/
theorem fail_of_gone_after_trouble :
    let e := untilRunning.look (untilRunning.after .fresh lostLooks)
      ⟨.given none, fun _ => ⟨.gone, []⟩⟩
    e.subject? = none ∧ e.turn.decision = .fail := by
  intro e
  have habsent := (lastSeen_eq_none_iff_gone untilRunning lostLooks e.look).2.1 rfl
  exact ⟨rfl, habsent.1.2 rfl⟩

/-! ### The identity that is waited for -/

/-- The identity that was handed in last does not depend on any answer: a wait that is given what it
remembers is given no new identity. -/
theorem latest_identity?_run (c : Config σ) (ls : List (Look S σ)) :
    latest Entry.identity? (c.run .fresh ls) = latest Input.identity? (ls.map Look.input) := by
  have h := (c.run_induction (P := fun es m => Reflects es m ∧
      latest Entry.identity? es = latest Input.identity? (es.map fun e => e.look.input))
    (fun ⟨hm, hes⟩ l => ⟨hm.look c l, hm.latest_identity?_concat hes⟩) ⟨.start, rfl⟩ ls).2
  rw [List.nil_append] at h
  calc latest Entry.identity? (c.run .fresh ls)
      = latest Input.identity? ((c.run .fresh ls).map fun e => e.look.input) := h
    _ = latest Input.identity? (((c.run .fresh ls).map Entry.look).map Look.input) := by
      rw [List.map_map]
      rfl
    _ = latest Input.identity? (ls.map Look.input) := by rw [run_map_look]

theorem latest_identity?_congr (c : Config σ) {ls ls' : List (Look S σ)}
    (h : ls'.map Look.input = ls.map Look.input) :
    latest Entry.identity? (c.run .fresh ls') = latest Entry.identity? (c.run .fresh ls) := by
  rw [c.latest_identity?_run, c.latest_identity?_run, h]

/-- **Identity tracking.** In every reached state a remembered snapshot has the identity that was
handed in last, and a look asks for no other identity than the one handed in last, at this look or
before. So two runs with the same inputs never remember or ask for different identities, whatever
their answers. -/
theorem identity_tracked (c : Config σ) (looks : List (Look S σ)) (l : Look S σ) :
    let es := c.run .fresh looks
    let m := c.after .fresh looks
    let e := c.look m l
    (∀ s, m.lastSeen = some s →
      ∃ id, Snapshot.id? s = some id ∧ latest Entry.identity? es = some id) ∧
    (∀ id ∈ e.turn.asked, latest Entry.identity? (es ++ [e]) = some id) ∧
    ∀ (looks' : List (Look S σ)) (l' : Look S σ),
      looks'.map Look.input = looks.map Look.input → l'.input = l.input →
      let m' := c.after .fresh looks'
      let e' := c.look m' l'
      (∀ s s', m.lastSeen = some s → m'.lastSeen = some s' → Snapshot.id? s' = Snapshot.id? s) ∧
      ∀ id ∈ e.turn.asked, ∀ id' ∈ e'.turn.asked, id' = id := by
  intro es m e
  have hm : Reflects es m := .of_run c looks
  have hasked {ls : List (Look S σ)} {l : Look S σ} {id : String}
      (h : id ∈ (c.look (c.after .fresh ls) l).turn.asked) :
      latest Entry.identity? (c.run .fresh (ls ++ [l])) = some id := by
    obtain ⟨s, hs⟩ := subject?_of_mem_asked h
    rw [run_concat]
    exact (Reflects.of_run c ls).latest_identity?_of_subject hs
  refine ⟨fun s hs => hm.latest_identity?_of_lastSeen hs, fun id hid => ?_,
    fun looks' l' hls hl => ⟨?_, ?_⟩⟩
  · rw [← run_concat]
    exact hasked hid
  · intro s s' hs hs'
    obtain ⟨id, hid, hi⟩ := hm.latest_identity?_of_lastSeen hs
    obtain ⟨id', hid', hi'⟩ := (Reflects.of_run c looks').latest_identity?_of_lastSeen hs'
    rw [c.latest_identity?_congr hls, hi] at hi'
    rw [hid, hid', hi']
  · intro id hid id' hid'
    have hlast : (looks' ++ [l']).map Look.input = (looks ++ [l]).map Look.input := by
      rw [List.map_append, List.map_append, hls, List.map_singleton, List.map_singleton, hl]
    have h := c.latest_identity?_congr hlast
    rw [hasked hid, hasked hid'] at h
    exact Option.some.inj h

/-- An answer about another node leaves the first node in memory, and the next look asks for it. A run
with the same inputs in which the node is seen on its way remembers it in another status and asks for
it as well. -/
theorem identity_kept_in_trouble :
    let m := untilRunning.after .fresh troubledLooks
    let e := untilRunning.look m ⟨.lastSeen, fun _ => ⟨.found (.new "n3" .running), []⟩⟩
    let seen := troubledLooks.map fun l => ⟨l.input, fun id => ⟨.found (.new id .suspended), []⟩⟩
    let m' := untilRunning.after .fresh seen
    let e' := untilRunning.look m' ⟨.lastSeen, fun _ => ⟨.gone, []⟩⟩
    (m.lastSeen = some (Node.new "n1" .pending) ∧ m'.lastSeen = some (Node.new "n1" .suspended) ∧
      Snapshot.id? (Node.new "n1" .suspended) = Snapshot.id? (Node.new "n1" .pending)) ∧
    ("n1" ∈ e.turn.asked ∧
      latest Entry.identity? (untilRunning.run .fresh troubledLooks ++ [e]) = some "n1" ∧
      "n1" ∈ e'.turn.asked ∧ ∀ id' ∈ e'.turn.asked, id' = "n1") := by
  intro m e seen m' e'
  have hasked : "n1" ∈ e.turn.asked := List.mem_singleton.2 rfl
  obtain ⟨-, hlast, hsame⟩ := identity_tracked untilRunning troubledLooks e.look
  obtain ⟨hseen, hasked'⟩ := hsame seen e'.look rfl rfl
  exact ⟨⟨rfl, rfl, hseen _ _ rfl rfl⟩, hasked, hlast _ hasked, List.mem_singleton.2 rfl,
    hasked' _ hasked⟩

end Config

end StatusWait
