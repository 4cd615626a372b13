import StatusWait.Proofs.History
import StatusWait.Proofs.Trouble

/-!
# What the past leaves behind

Two waits for the same target may have come a long way by different roads. This module says that
where they remember the same snapshot, nothing that follows can tell them apart, and that polls which
came to nothing may as well not have happened.

## The model

A `View` is what is seen of a look from outside: the decision, the snapshot remembered, the events and
the identity looked up. It leaves out the flag and the counters, in which two pasts do differ. The flag
is read by a look without a subject, so `Memory.SameOutlook` lets it differ only while a snapshot with
an identity is remembered, when there is no such look.

A look is `Futile` if it was given nothing new and its lookup was inconclusive. A list of marks strikes
looks out of a run, or entries out of its record.

## What is proved

* `Memory.SameOutlook.look` and `Memory.SameOutlook.run` — a look gives the same view of memories with
  the same outlook and keeps their outlook the same, and so does a run of looks.
* `Config.view_look_of_subject` — looks at the same subject give the same view whatever was before.
* `Config.run_unstruck` — without its futile looks a run shows what it showed of all the others.
-/

namespace StatusWait

variable {S σ : Type}

/-- What is seen of a look from outside. -/
structure View (S σ : Type) where
  /-- The decision. -/
  decision : Decision
  /-- The snapshot that is remembered. -/
  lastSeen : Option S
  /-- The events, in order. -/
  log : List (Event σ)
  /-- The identities that were looked up. -/
  asked : List String
deriving DecidableEq, Repr

/-! ### Striking out -/

/-- The members of a list that are marked. -/
def struck {α : Type} : List Bool → List α → List α
  | true :: marks, a :: as => a :: struck marks as
  | false :: marks, _ :: as => struck marks as
  | _, _ => []

/-- The list without its marked members. -/
def unstruck {α : Type} : List Bool → List α → List α
  | true :: marks, _ :: as => unstruck marks as
  | false :: marks, a :: as => a :: unstruck marks as
  | _, as => as

section

variable {α : Type} {marks : List Bool} {a : α} {as : List α}

@[simp] theorem unstruck_nil : unstruck [] as = as := by cases as <;> rfl

@[simp] theorem unstruck_of_nil : unstruck marks ([] : List α) = [] := by
  cases marks with
  | nil => rfl
  | cons b marks => cases b <;> rfl

end

variable [Snapshot S σ]

namespace Entry

/-- What is seen of a look on record. -/
def view (e : Entry S σ) : View S σ :=
  ⟨e.turn.decision, e.turn.memory.lastSeen, e.turn.log, e.turn.asked⟩

/-- A poll that came to nothing: no snapshot with an identity was handed in, or the one in memory
was, and the lookup was inconclusive. -/
def Futile (e : Entry S σ) : Prop :=
  (e.identity? = none ∨ e.input = e.before.lastSeen) ∧
    ∃ id ∈ e.turn.asked, (e.look.lookup id).answer.Inconclusive id

end Entry

namespace Memory

/-- Two memories that promise the same: they hold the same snapshot, and the same flag too unless that
snapshot has an identity. -/
structure SameOutlook (m m' : Memory S) : Prop where
  /-- They remember the same. -/
  lastSeen : m'.lastSeen = m.lastSeen
  /-- Where nothing can be looked at, both know of a lookup or neither does. -/
  refreshAttempted : m.lastSeen.bind Snapshot.id? = none → m'.refreshAttempted = m.refreshAttempted

namespace SameOutlook

variable {m m' m'' : Memory S} {id : String} {s : S}

theorem symm (h : m.SameOutlook m') : m'.SameOutlook m where
  lastSeen := h.lastSeen.symm
  refreshAttempted := fun hn => (h.refreshAttempted (h.lastSeen ▸ hn)).symm

theorem trans (h : m.SameOutlook m') (h' : m'.SameOutlook m'') : m.SameOutlook m'' where
  lastSeen := h'.lastSeen.trans h.lastSeen
  refreshAttempted := fun hn =>
    (h'.refreshAttempted (h.lastSeen.symm ▸ hn)).trans (h.refreshAttempted hn)

theorem of_lastSeen (hid : Snapshot.id? s = some id) (hm : m.lastSeen = some s)
    (hm' : m'.lastSeen = some s) : m.SameOutlook m' where
  lastSeen := hm'.trans hm.symm
  refreshAttempted := fun hn => by simp [hm, hid] at hn

end SameOutlook

end Memory

/-! ### One look -/

namespace Config

variable [DecidableEq σ] [Status σ] {c : Config σ} {m m' : Memory S} {l l' : Look S σ} {id : String}
  {s : S}

/-- Looks at the same subject, with the same reply if it is looked up, give the same view and leave the
same outlook, whatever was remembered before. -/
theorem view_look_of_subject (hs : (c.look m l).subject? = some (id, s))
    (hs' : (c.look m' l').subject? = some (id, s))
    (hl : c.standing (Snapshot.status s) = .transitional → l'.lookup id = l.lookup id) :
    (c.look m' l').view = (c.look m l).view ∧
      (c.look m l).turn.memory.SameOutlook (c.look m' l').turn.memory := by
  by_cases ht : c.standing (Snapshot.status s) = .transitional
  · have h := look_transitional hs ht
    have h' := look_transitional hs' ht
    rw [hl ht] at h'
    refine ⟨by simp only [Entry.view, h, h', Memory.lastSeen_remember], ?_⟩
    rw [h, h']
    exact ⟨rfl, fun _ => rfl⟩
  · have h := look_decided hs ht
    have h' := look_decided hs' ht
    refine ⟨by simp only [Entry.view, h, h', Memory.lastSeen_remember], ?_⟩
    rw [h, h']
    exact .of_lastSeen (id?_of_subject? hs) rfl rfl

theorem lastSeen_of_subject (hi : (c.look m l).identity? = none ∨ (c.look m l).input = m.lastSeen)
    (hs : (c.look m l).subject? = some (id, s)) : m.lastSeen = some s := by
  have hsub : subject? m (c.look m l).input = some (id, s) := hs
  rw [subject?, Option.orElse_eq_orElse, Option.orElse_eq_or, Option.or_eq_some_iff] at hsub
  rcases hsub with h | ⟨-, h⟩
  · obtain ⟨hinput, hid⟩ := bind_identified?_eq_some_iff.1 h
    rcases hi with hi | hi
    · simp [Entry.identity?, hinput, hid] at hi
    · rw [← hi, hinput]
  · exact (bind_identified?_eq_some_iff.1 h).1

theorem sameOutlook_of_futile (h : (c.look m l).Futile) :
    m.SameOutlook (c.look m l).turn.memory := by
  obtain ⟨hi, id, hid, hinc⟩ := h
  obtain ⟨s, hs⟩ := subject?_of_mem_asked hid
  have hm : m.lastSeen = some s := lastSeen_of_subject hi hs
  have ht : c.standing (Snapshot.status s) = .transitional := by
    by_contra ht
    rw [look_decided hs ht] at hid
    cases hid
  obtain ⟨w, -, hweigh⟩ := c.weigh_of_inconclusive s hinc
  have hafter : (c.look m l).turn.memory.lastSeen = some s := by
    have hweigh' : c.weigh id s (l.lookup id).answer = ⟨.retry, some s, w⟩ := hweigh
    rw [look_transitional hs ht, hweigh', Memory.lastSeen_remember]
  exact .of_lastSeen (id?_of_subject? hs) hm hafter

end Config

namespace Memory.SameOutlook

variable [DecidableEq σ] [Status σ] {m m' : Memory S}

/-- **A look cannot tell memories with the same outlook apart**, and leaves them the same outlook. -/
theorem look (c : Config σ) (h : m.SameOutlook m') (l : Look S σ) :
    (c.look m' l).view = (c.look m l).view ∧
      (c.look m l).turn.memory.SameOutlook (c.look m' l).turn.memory := by
  have hsub : (c.look m' l).subject? = (c.look m l).subject? := by
    have hinput : l.input.resolve m' = l.input.resolve m := by
      cases l.input with
      | given s => rfl
      | lastSeen => exact h.lastSeen
    simp only [Config.look, Entry.subject?, Entry.input, subject?, hinput, h.lastSeen]
  cases hs : (c.look m l).subject? with
  | none =>
    -- Without a subject nothing with an identity is remembered, so the flags agree.
    have hflag := h.refreshAttempted (subject?_eq_none_iff.1 hs).2
    rw [Config.memory_look_absent hs, Config.memory_look_absent (hsub.trans hs)]
    refine ⟨?_, h.lastSeen, fun _ => hflag⟩
    rw [Entry.view, Entry.view, Config.look_absent hs, Config.look_absent (hsub.trans hs), hflag]
    cases m.refreshAttempted <;> simp [h.lastSeen]
  | some p => exact Config.view_look_of_subject hs (hsub.trans hs) fun _ => rfl

theorem run (c : Config σ) (h : m.SameOutlook m') (looks : List (Look S σ)) :
    (c.run m' looks).map Entry.view = (c.run m looks).map Entry.view := by
  induction looks generalizing m m' with
  | nil => rfl
  | cons l looks ih =>
    obtain ⟨hview, hafter⟩ := h.look c l
    rw [Config.run, Config.run, List.map_cons, List.map_cons, hview, ih hafter]

end Memory.SameOutlook

namespace Config

variable [DecidableEq σ] [Status σ]

/-- Without its futile looks a run shows what it showed of all the others. -/
theorem run_unstruck (c : Config σ) {looks : List (Look S σ)} {m m' : Memory S} {marks : List Bool}
    (h : m.SameOutlook m') (hf : ∀ e ∈ struck marks (c.run m looks), e.Futile) :
    (c.run m' (unstruck marks looks)).map Entry.view =
      (unstruck marks (c.run m looks)).map Entry.view := by
  induction looks generalizing m m' marks with
  | nil => simp [run]
  | cons l looks ih =>
    cases marks with
    | nil => simpa using h.run c (l :: looks)
    | cons b marks =>
      cases b with
      | false =>
        obtain ⟨hview, hafter⟩ := h.look c l
        have hrest := ih hafter fun e he => hf e he
        simp only [run, unstruck, List.map_cons, hview, hrest]
      | true =>
        have hfutile : (c.look m l).Futile := hf _ (List.mem_cons_self ..)
        have hafter := (sameOutlook_of_futile hfutile).symm.trans h
        exact ih hafter fun e he => hf e (List.mem_cons_of_mem _ he)

/-- **What is remembered is all that matters.** Let two waits have come to remember the same snapshot,
by whatever looks. Then the same looks show the same from there on. Moreover, futile looks may be
struck out of a run without a change in what the others show; and from a look on at which two waits are
handed the same snapshot with an identity, and get the same reply if they look it up, they show the
same, whatever was before. -/
theorem view_determined_by_lastSeen (c : Config σ) (past past' : List (Look S σ)) :
    let m := c.after .fresh past
    let m' := c.after .fresh past'
    (∀ s, m.lastSeen = some s → m'.lastSeen = some s → ∀ looks,
      (c.run m' looks).map Entry.view = (c.run m looks).map Entry.view) ∧
    (∀ marks, (∀ e ∈ struck marks (c.run .fresh past), e.Futile) →
      (c.run .fresh (unstruck marks past)).map Entry.view =
        (unstruck marks (c.run .fresh past)).map Entry.view) ∧
    ∀ (l l' : Look S σ) (s : S) (id : String), Snapshot.id? s = some id →
      l.input = .given (some s) → l'.input = .given (some s) →
      (c.standing (Snapshot.status s) = .transitional → l'.lookup id = l.lookup id) → ∀ looks,
        (c.run m' (l' :: looks)).map Entry.view = (c.run m (l :: looks)).map Entry.view := by
  intro m m'
  refine ⟨fun s hm hm' looks => ?_, fun marks hf => ?_, fun l l' s id hid hl hl' hreply looks => ?_⟩
  · obtain ⟨id, hid, -⟩ := (Reflects.of_run c past).latest_identity?_of_lastSeen hm
    exact (Memory.SameOutlook.of_lastSeen hid hm hm').run c looks
  · exact c.run_unstruck ⟨rfl, fun _ => rfl⟩ hf
  · have hs : (c.look m l).subject? = some (id, s) := by
      rw [Entry.subject?, Entry.input, look, hl]
      exact subject?_some hid
    have hs' : (c.look m' l').subject? = some (id, s) := by
      rw [Entry.subject?, Entry.input, look, hl']
      exact subject?_some hid
    obtain ⟨hview, hafter⟩ := view_look_of_subject hs hs' hreply
    rw [run, run, List.map_cons, List.map_cons, hview, hafter.run c looks]

/-- A wait that was handed a node that is up, and one that found it up by a lookup, differ in the flag
and in nothing that follows. The answer about another node may be struck out of the troubled looks.
When both waits are handed another node, they go on alike as well. -/
theorem view_after_two_roads :
    let up : Node := .new "n1" .running
    let m := untilRunning.after .fresh [⟨.given (some up), fun _ => ⟨.gone, []⟩⟩]
    let m' := untilRunning.after .fresh
      [⟨.given (some (.new "n1" .pending)), fun _ => ⟨.found up, []⟩⟩]
    let other : Look Node NodeStatus :=
      ⟨.given (some (.new "n2" .pending)), fun id => ⟨.found (.new id .suspended), []⟩⟩
    (m.lastSeen = some up ∧ m'.lastSeen = some up ∧ m.refreshAttempted ≠ m'.refreshAttempted ∧
      ∀ looks, (untilRunning.run m' looks).map Entry.view =
        (untilRunning.run m looks).map Entry.view) ∧
    ((∀ e ∈ struck [false, true] (untilRunning.run .fresh troubledLooks), e.Futile) ∧
      (untilRunning.run .fresh (unstruck [false, true] troubledLooks)).map Entry.view =
        (unstruck [false, true] (untilRunning.run .fresh troubledLooks)).map Entry.view) ∧
    (Snapshot.id? (Node.new "n2" .pending) = some "n2" ∧
      ∀ looks, (untilRunning.run m' (other :: looks)).map Entry.view =
        (untilRunning.run m (other :: looks)).map Entry.view) := by
  intro up m m' other
  obtain ⟨hsame, -, hother⟩ := view_determined_by_lastSeen untilRunning
    [⟨.given (some up), fun _ => ⟨.gone, []⟩⟩]
    [⟨.given (some (.new "n1" .pending)), fun _ => ⟨.found up, []⟩⟩]
  obtain ⟨-, hstruck, -⟩ := view_determined_by_lastSeen untilRunning troubledLooks []
  have hfutile : ∀ e ∈ struck [false, true] (untilRunning.run .fresh troubledLooks), e.Futile := by
    intro e he
    obtain rfl := List.mem_singleton.1 he
    exact ⟨.inr rfl, "n1", List.mem_singleton.2 rfl, by decide⟩
  exact ⟨⟨rfl, rfl, by decide, hsame up rfl rfl⟩, ⟨hfutile, hstruck _ hfutile⟩, rfl,
    hother other other _ "n2" rfl rfl rfl fun _ => rfl⟩

end Config

end StatusWait
