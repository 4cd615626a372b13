import Mathlib.Data.List.Forall2
import StatusWait.Proofs.History

/-!
# What a wait looks at

A snapshot says many things about a resource, and an error has a kind. This module says that a wait looks at
none of it: only identities and statuses count, and of an error only its text.

## The model

`Alike` relates what a wait takes for the same. Two snapshots are alike if they have the same identity, or
none, and the same status, whatever else they say; two errors if they have the same text; two memories if
they hold alike snapshots and agree in everything else. Two inputs are alike if they are alike snapshots, or
if neither hands in an identity: nothing, a snapshot without an identity in whatever status, and what the
wait itself remembers are all the same to it. A look mirrors one on record if it has an alike input and an
alike reply to the question that was asked there.

## What is proved

* `subject?_resolve_of_identity?_eq_none` — an input without an identity leaves the wait with the snapshot
  in memory, so its status counts for nothing.
* `Config.weigh_alike` — alike answers come to alike outcomes.
* `Config.look_of_mirrors` and `Config.run_of_mirrors` — a look that mirrors another shows the same, and so
  does a run of such looks.
-/

namespace StatusWait

variable {S σ : Type} [Snapshot S σ]

/-! ### What is the same to a wait -/

/-- Two snapshots with the same identity, or none, and the same status. -/
structure Snapshot.Alike (s s' : S) : Prop where
  /-- They are of the same resource, or of none that is known. -/
  id? : Snapshot.id? s' = Snapshot.id? s
  /-- They show it in the same status. -/
  status : Snapshot.status s' = Snapshot.status s

/-- Two answers that a wait takes for the same. -/
inductive Answer.Alike : Answer S → Answer S → Prop
  /-- Alike snapshots. -/
  | found {f f' : S} (h : Snapshot.Alike f f') : Alike (.found f) (.found f')
  /-- The resource is gone in both. -/
  | gone : Alike .gone .gone
  /-- Errors with the same text. -/
  | failed {e e' : PollError} (h : e'.message = e.message) : Alike (.failed e) (.failed e')

/-- Two replies with alike answers and the same events. -/
structure Reply.Alike (r r' : Reply S σ) : Prop where
  /-- The answers are alike. -/
  answer : r.answer.Alike r'.answer
  /-- The same was logged on the way. -/
  log : r'.log = r.log

/-- Two inputs that a wait takes for the same. -/
inductive Input.Alike : Input S → Input S → Prop
  /-- Alike snapshots. -/
  | given {s s' : S} (h : Snapshot.Alike s s') : Alike (.given (some s)) (.given (some s'))
  /-- Neither hands in an identity. -/
  | unidentified {i i' : Input S} (h : i.identity? = none) (h' : i'.identity? = none) : Alike i i'

/-- Two memories that differ at most in what the snapshots in them say besides identity and status. -/
structure Memory.Alike (m m' : Memory S) : Prop where
  /-- They hold alike snapshots, or none. -/
  lastSeen : Option.Rel Snapshot.Alike m.lastSeen m'.lastSeen
  /-- Both know of a lookup, or neither does. -/
  refreshAttempted : m'.refreshAttempted = m.refreshAttempted
  /-- They have counted the same looks. -/
  evaluations : m'.evaluations = m.evaluations
  /-- They have counted the same lookups. -/
  refreshes : m'.refreshes = m.refreshes

/-- Two looks that show the same. -/
structure Entry.Alike (e e' : Entry S σ) : Prop where
  /-- They decide the same. -/
  decision : e'.turn.decision = e.turn.decision
  /-- They log the same. -/
  log : e'.turn.log = e.turn.log
  /-- They ask for the same identity. -/
  asked : e'.turn.asked = e.turn.asked
  /-- They leave alike memories. -/
  memory : e.turn.memory.Alike e'.turn.memory

/-- A look with an input like that of a look on record, and a reply like the one to the question that was
asked there. -/
structure Look.Mirrors (l' : Look S σ) (e : Entry S σ) : Prop where
  /-- The inputs are alike. -/
  input : e.look.input.Alike l'.input
  /-- The replies are alike. -/
  lookup : ∀ id ∈ e.turn.asked, (e.look.lookup id).Alike (l'.lookup id)

theorem Layer.outcome_alike {answer answer' : Answer S} (h : answer.Alike answer') (id : String) :
    (outcome id answer' : Event σ) = outcome id answer := by
  cases h with
  | found h => exact congrArg (Event.refreshed id) h.status
  | gone => rfl
  | failed h => exact congrArg (Event.refreshFailed id) h

/-- The layers around a lookup see no more of an answer than the wait does. -/
theorem Layer.wrap_alike (layers : List Layer) {lookup lookup' : String → Answer S} {id : String}
    (h : (lookup id).Alike (lookup' id)) :
    (wrap layers lookup id : Reply S σ).Alike (wrap layers lookup' id) := by
  induction layers with
  | nil => exact ⟨h, rfl⟩
  | cons layer layers ih =>
    cases layer with
    | tracing =>
      have htrace (f : String → Answer S) : (wrap (.tracing :: layers) f id : Reply S σ) =
          ⟨(wrap layers f id : Reply S σ).answer, .refreshing id :: (wrap layers f id).log ++
            [outcome id (wrap layers f id : Reply S σ).answer]⟩ := rfl
      rw [htrace, htrace]
      exact ⟨ih.answer, by rw [ih.log, outcome_alike ih.answer]⟩
    | shared => exact ih
    | client => exact ih

/-! ### The subject -/

section

variable {m m' : Memory S} {i i' : Input S} {s s' : S}

/-- Alike snapshots with their identities. -/
def Subject.Alike (p p' : String × S) : Prop := p'.1 = p.1 ∧ Snapshot.Alike p.2 p'.2

theorem Subject.eq_none_of_alike {o : Option (String × S)} (h : Option.Rel Subject.Alike none o) :
    o = none := by
  cases h
  rfl

theorem Subject.eq_some_of_alike {id : String} {o : Option (String × S)}
    (h : Option.Rel Subject.Alike (some (id, s)) o) :
    ∃ s', o = some (id, s') ∧ Snapshot.Alike s s' := by
  obtain @⟨-, ⟨id', s'⟩, hid, halike⟩ := h
  obtain rfl : id' = id := hid
  exact ⟨s', rfl, halike⟩

theorem Snapshot.Alike.identified? (h : Snapshot.Alike s s') :
    Option.Rel Subject.Alike (Snapshot.identified? s) (Snapshot.identified? s') := by
  rw [Snapshot.identified?, Snapshot.identified?, h.id?]
  cases Snapshot.id? s with
  | none => exact .none
  | some id => exact .some ⟨rfl, h⟩

theorem Memory.Alike.identified? (h : m.Alike m') :
    Option.Rel Subject.Alike (m.lastSeen.bind Snapshot.identified?)
      (m'.lastSeen.bind Snapshot.identified?) := by
  have hlast := h.lastSeen
  generalize m.lastSeen = seen at hlast ⊢
  generalize m'.lastSeen = seen' at hlast ⊢
  cases hlast with
  | none => exact .none
  | some h => exact h.identified?

theorem subject?_resolve_of_identity?_eq_none (h : i.identity? = none) :
    subject? m (i.resolve m) = m.lastSeen.bind Snapshot.identified? := by
  rw [subject?, Option.orElse_eq_orElse, Option.orElse_eq_or]
  cases i with
  | given s =>
    have hnone : s.bind Snapshot.identified? = none := by
      cases s with
      | none => rfl
      | some s => exact Option.map_eq_none_iff.2 h
    rw [Input.resolve, hnone, Option.none_or]
  | lastSeen => rw [Input.resolve, Option.or_self]

theorem subject?_alike (hm : m.Alike m') (hi : i.Alike i') :
    Option.Rel Subject.Alike (subject? m (i.resolve m)) (subject? m' (i'.resolve m')) := by
  cases hi with
  | @given s s' h =>
    have hlast := hm.identified?
    have hs := h.identified?
    show Option.Rel _ (Snapshot.identified? s <|> _) (Snapshot.identified? s' <|> _)
    generalize Snapshot.identified? s = p at hs ⊢
    generalize Snapshot.identified? s' = p' at hs ⊢
    cases hs with
    | none => exact hlast
    | some h => exact .some h
  | unidentified h h' =>
    rw [subject?_resolve_of_identity?_eq_none h, subject?_resolve_of_identity?_eq_none h']
    exact hm.identified?

end

/-! ### One look -/

namespace Config

variable [DecidableEq σ] [Status σ] {c : Config σ} {m m' : Memory S} {l l' : Look S σ} {id : String}
  {s s' : S}

theorem verdict_alike (h : Snapshot.Alike s s') : c.verdict s' = c.verdict s := by
  rw [verdict, verdict, h.status]

theorem event_settle_alike (h : Snapshot.Alike s s') : (c.settle id s').event = (c.settle id s).event := by
  simp only [settle, h.status]
  cases c.standing (Snapshot.status s) <;> rfl

/-- **Alike answers about alike snapshots come to the same**, but for what is remembered, which is alike. -/
theorem weigh_alike (id : String) {stale stale' : S} {answer answer' : Answer S}
    (hs : Snapshot.Alike stale stale') (h : answer.Alike answer') :
    (c.weigh id stale' answer').decision = (c.weigh id stale answer).decision ∧
      (c.weigh id stale' answer').event = (c.weigh id stale answer).event ∧
      Option.Rel Snapshot.Alike (c.weigh id stale answer).lastSeen
        (c.weigh id stale' answer').lastSeen := by
  cases h with
  | @found f f' h =>
    by_cases hid : Snapshot.id? f = some id
    · have hid' : Snapshot.id? f' = some id := h.id?.trans hid
      rw [weigh_found hid, weigh_found hid', decision_settle, decision_settle, lastSeen_settle,
        lastSeen_settle]
      exact ⟨verdict_alike h, event_settle_alike h, .some h⟩
    · simp only [weigh, h.id?, if_neg hid]
      exact ⟨trivial, trivial, .some hs⟩
  | gone => exact ⟨rfl, rfl, .none⟩
  | failed h =>
    simp only [weigh, h]
    exact ⟨trivial, trivial, .some hs⟩

/-- **A look that mirrors another shows the same**, from memories that are alike. -/
theorem look_of_mirrors (hm : m.Alike m') (h : l'.Mirrors (c.look m l)) :
    (c.look m l).Alike (c.look m' l') := by
  have hsub : Option.Rel Subject.Alike (c.look m l).subject? (c.look m' l').subject? :=
    subject?_alike hm h.input
  cases hs : (c.look m l).subject? with
  | none =>
    have hs' := Subject.eq_none_of_alike (hs ▸ hsub)
    have hl := look_absent hs
    have hl' := look_absent hs'
    rw [hm.refreshAttempted] at hl'
    have hafter : m.looked.Alike m'.looked :=
      ⟨hm.lastSeen, hm.refreshAttempted, congrArg bump hm.evaluations, hm.refreshes⟩
    cases ht : m.refreshAttempted with
    | true =>
      rw [ht, if_pos rfl] at hl hl'
      exact ⟨by rw [hl, hl'], by rw [hl, hl'], by rw [hl, hl'], by rw [hl, hl']; exact hafter⟩
    | false =>
      rw [ht, if_neg Bool.false_ne_true] at hl hl'
      exact ⟨by rw [hl, hl'], by rw [hl, hl'], by rw [hl, hl'], by rw [hl, hl']; exact hafter⟩
  | some p =>
    obtain ⟨id, s⟩ := p
    obtain ⟨s', hs', halike⟩ := Subject.eq_some_of_alike (hs ▸ hsub)
    by_cases ht : c.standing (Snapshot.status s) = .transitional
    · have hl := look_transitional hs ht
      have hl' := look_transitional hs' (halike.status.symm ▸ ht)
      have hreply : (l.lookup id).Alike (l'.lookup id) := h.lookup id (by rw [hl]; exact List.mem_singleton.2 rfl)
      obtain ⟨hdecision, hevent, hlast⟩ := weigh_alike (c := c) id halike hreply.answer
      refine ⟨?_, ?_, ?_, ?_⟩
      · rw [hl, hl', hdecision]
      · rw [hl, hl', hevent, hreply.log, halike.status]
      · rw [hl, hl']
      · rw [hl, hl']
        exact ⟨hlast, rfl, congrArg bump hm.evaluations, congrArg bump hm.refreshes⟩
    · have hl := look_decided hs ht
      have hl' := look_decided hs' (halike.status.symm ▸ ht)
      refine ⟨?_, ?_, ?_, ?_⟩
      · rw [hl, hl', verdict_alike halike]
      · rw [hl, hl', event_settle_alike halike]
      · rw [hl, hl']
      · rw [hl, hl']
        exact ⟨.some halike, hm.refreshAttempted, congrArg bump hm.evaluations, hm.refreshes⟩

/-- Runs of looks that mirror each other show the same at every look. -/
theorem run_of_mirrors (c : Config σ) {looks looks' : List (Look S σ)} (hm : m.Alike m')
    (h : List.Forall₂ (fun e l' => l'.Mirrors e) (c.run m looks) looks') :
    List.Forall₂ Entry.Alike (c.run m looks) (c.run m' looks') := by
  induction looks generalizing m m' looks' with
  | nil =>
    cases h
    exact .nil
  | cons l looks ih =>
    obtain _ | @⟨_, l', _, looks', hl, hrest⟩ := h
    have hlook : (c.look m l).Alike (c.look m' l') := look_of_mirrors hm hl
    exact .cons hlook (ih hlook.memory hrest)

/-! ### Snapshots without an identity -/

variable {u : S} {lookup : String → Reply S σ}

/-- To look at a snapshot without an identity is to look at nothing. -/
theorem turn_look_unidentified (hu : Snapshot.id? u = none) :
    (c.look m ⟨.given (some u), lookup⟩).turn = (c.look m ⟨.given none, lookup⟩).turn := by
  have hsub : subject? m.looked (some u) = subject? m.looked none :=
    (subject?_resolve_of_identity?_eq_none (i := .given (some u)) hu).trans
      (subject?_resolve_of_identity?_eq_none (i := .given none) rfl).symm
  show c.evaluate m (some u) lookup = c.evaluate m none lookup
  simp only [evaluate, hsub]

/-- A look that is handed no identity ends the wait on account of the snapshot in memory or a fresh one of
the same resource, or because there is neither and the resource is gone. -/
theorem decision_of_unidentified {d : Decision} (hd : d ≠ .retry) (hi : l.input.identity? = none)
    (h : (c.look m l).turn.decision = d) :
    (d = .fail ∧ m.lastSeen.bind Snapshot.id? = none ∧ m.refreshAttempted = true) ∨
      ∃ id s, m.lastSeen = some s ∧ Snapshot.id? s = some id ∧
        (c.verdict s = d ∨
          ∃ f, (c.look m l).answer? = some (.found f) ∧ Snapshot.id? f = some id ∧ c.verdict f = d) := by
  cases hs : (c.look m l).subject? with
  | none =>
    refine .inl ?_
    rw [look_absent hs] at h
    cases ht : m.refreshAttempted with
    | true =>
      rw [ht, if_pos rfl] at h
      exact ⟨h.symm, (subject?_eq_none_iff.1 hs).2, rfl⟩
    | false =>
      rw [ht, if_neg Bool.false_ne_true] at h
      exact absurd h.symm hd
  | some p =>
    obtain ⟨id, s⟩ := p
    have hmem : m.lastSeen.bind Snapshot.identified? = some (id, s) :=
      (subject?_resolve_of_identity?_eq_none hi).symm.trans hs
    obtain ⟨hlast, hid⟩ := bind_identified?_eq_some_iff.1 hmem
    exact .inr ⟨id, s, hlast, hid, (decision_look_eq_iff hd hs).1 h⟩

/-- **Only identities and statuses influence a wait.** Let two runs of new waits have alike inputs, and
alike replies to the questions that the first asks. Then look by look they decide, log, ask and count the
same, and remember alike snapshots; and layers keep alike answers alike, with what they log. In particular
a snapshot without an identity counts for as much as none: whatever its status, a look at it passes or
fails only on account of the snapshot in memory or a fresh one of the same resource, and fails besides when
nothing is in memory because the resource is gone. -/
theorem shows_identity_and_status_only (c : Config σ) (looks : List (Look S σ)) :
    (∀ looks', List.Forall₂ (fun e l' => l'.Mirrors e) (c.run .fresh looks) looks' →
      List.Forall₂ Entry.Alike (c.run .fresh looks) (c.run .fresh looks')) ∧
    (∀ (layers : List Layer) (lookup lookup' : String → Answer S) (id : String),
      (lookup id).Alike (lookup' id) →
        (Layer.wrap layers lookup id : Reply S σ).Alike (Layer.wrap layers lookup' id)) ∧
    ∀ (u : S) (lookup : String → Reply S σ), Snapshot.id? u = none →
      let m := c.after .fresh looks
      let e := c.look m ⟨.given (some u), lookup⟩
      e.turn = (c.look m ⟨.given none, lookup⟩).turn ∧
      (e.turn.decision = .pass → ∃ id s, m.lastSeen = some s ∧ Snapshot.id? s = some id ∧
        (Snapshot.status s = c.target ∨ ∃ f, e.answer? = some (.found f) ∧ Snapshot.id? f = some id ∧
          Snapshot.status f = c.target)) ∧
      (e.turn.decision = .fail →
        (m.lastSeen = none ∧ latest Entry.answer? (c.run .fresh looks) = some .gone) ∨
        ∃ id s, m.lastSeen = some s ∧ Snapshot.id? s = some id ∧
          (Snapshot.status s ∈ c.invalid ∨ ∃ f, e.answer? = some (.found f) ∧
            Snapshot.id? f = some id ∧ Snapshot.status f ∈ c.invalid)) := by
  refine ⟨fun looks' h => ?_, fun layers lookup lookup' id h => Layer.wrap_alike layers h,
    fun u lookup hu => ?_⟩
  · exact c.run_of_mirrors ⟨.none, rfl, rfl, rfl⟩ h
  · intro m e
    have hm : Reflects (c.run .fresh looks) m := .of_run c looks
    have hi : e.look.input.identity? = none := hu
    refine ⟨turn_look_unidentified hu, fun h => ?_, fun h => ?_⟩
    · obtain ⟨hd, -⟩ | hseen := decision_of_unidentified (by decide) hi h
      · cases hd
      · simp only [verdict_eq_pass_iff] at hseen
        exact hseen
    · obtain ⟨-, hnone, ht⟩ | hseen := decision_of_unidentified (by decide) hi h
      · have hlast : m.lastSeen = none := by
          cases hl : m.lastSeen with
          | none => rfl
          | some s =>
            obtain ⟨id, hid, -⟩ := hm.latest_identity?_of_lastSeen hl
            simp [hl, hid] at hnone
        exact .inl ⟨hlast, (hm.refreshAttempted_iff hlast).1 ht⟩
      · simp only [verdict_eq_fail_iff] at hseen
        exact .inr hseen

/-- A run in which a node has a name and tags, a lookup fails in the setup, and the wait is handed nothing
shows what one shows without name and tags, with an error of another kind in the same words, and with a
node without an identity that is up. Two traced lookups agree as well, and the wait that was handed that node
does not pass by it. -/
theorem shows_identity_and_status_only_of_named_node :
    let bare : Node := .new "n1" .pending
    let named : Node := bare.setAll [.name "web", .tags ["a", "b"]]
    let anonymous : Node := .unidentified .running
    let broken : PollError := .invalidConfig "no route"
    let broken' : PollError := .setup (.invalidConfig "no route")
    let looks : List (Look Node NodeStatus) :=
      [⟨.given (some named), fun _ => ⟨.failed broken', []⟩⟩,
        ⟨.given none, fun _ => ⟨.found named, []⟩⟩]
    let looks' : List (Look Node NodeStatus) :=
      [⟨.given (some bare), fun _ => ⟨.failed broken, []⟩⟩,
        ⟨.given (some anonymous), fun _ => ⟨.found bare, []⟩⟩]
    (List.Forall₂ (fun e l' => l'.Mirrors e) (untilRunning.run .fresh looks) looks' ∧
      List.Forall₂ Entry.Alike (untilRunning.run .fresh looks) (untilRunning.run .fresh looks')) ∧
    (Answer.Alike (.found named) (.found bare) ∧
      (Layer.wrap [.tracing] (fun _ => .found named) "n1" : Reply Node NodeStatus).Alike
        (Layer.wrap [.tracing] (fun _ => .found bare) "n1")) ∧
    (Snapshot.id? anonymous = none ∧
      (untilRunning.look (untilRunning.after .fresh looks)
        ⟨.given (some anonymous), fun _ => ⟨.gone, []⟩⟩).turn.decision ≠ .pass) := by
  intro bare named anonymous broken broken' looks looks'
  have halike : Snapshot.Alike named bare := ⟨rfl, rfl⟩
  have hmirrors : List.Forall₂ (fun e l' => l'.Mirrors e) (untilRunning.run .fresh looks) looks' :=
    .cons ⟨.given halike, fun _ _ => ⟨.failed rfl, rfl⟩⟩ <|
      .cons ⟨.unidentified rfl rfl, fun _ _ => ⟨.found halike, rfl⟩⟩ .nil
  obtain ⟨hrun, hlayers, hnobody⟩ := shows_identity_and_status_only untilRunning looks
  obtain ⟨-, hpass, -⟩ := hnobody anonymous (fun _ => ⟨.gone, []⟩) rfl
  refine ⟨⟨hmirrors, hrun looks' hmirrors⟩, ⟨.found halike, hlayers _ _ _ "n1" (.found halike)⟩, rfl,
    fun h => ?_⟩
  -- What is remembered is the named node, which is still on its way, and the lookup finds nothing.
  obtain ⟨id, s, hlast, -, hs | ⟨f, hf, -⟩⟩ := hpass h
  · cases hlast
    exact absurd hs (by decide)
  · cases hf

end Config

end StatusWait
