import Mathlib.Data.List.Forall2
import StatusWait.Proofs.Run

/-!
# Trouble with lookups

A lookup can go wrong in many ways: the resource cannot be asked about, or the answer is about
another resource, or about none. This module says that a wait does not care in which.

## The model

An answer to a question about `id` is `Inconclusive` if it is an error, of whatever kind, or a
snapshot that is not one of `id`, of whatever status. Two answers are `Exchangeable` if they are the
same or both inconclusive. A look stands in for one on record if it has the same input and an
exchangeable answer to the question that was asked there.

## What is proved

An inconclusive answer leaves the stale snapshot in memory, decides nothing, and is noted by one
warning (`Config.weigh_of_inconclusive`). So a look that stands in for another differs from it in the
text of that warning at most (`Config.look_of_standsInFor`), and so does a run of such looks
(`Config.run_exchange`).
-/

namespace StatusWait

variable {S σ : Type} [Snapshot S σ]

namespace Answer

/-- An answer to a question about `id` that leaves open what has become of it. -/
def Inconclusive (id : String) : Answer S → Prop
  | found fresh => Snapshot.id? fresh ≠ some id
  | gone => False
  | failed _ => True

instance (id : String) : (answer : Answer S) → Decidable (answer.Inconclusive id)
  | found fresh => inferInstanceAs (Decidable (Snapshot.id? fresh ≠ some id))
  | gone => inferInstanceAs (Decidable False)
  | failed _ => inferInstanceAs (Decidable True)

/-- Two answers to a question about `id` that a wait treats alike. -/
def Exchangeable (id : String) (a b : Answer S) : Prop :=
  a = b ∨ a.Inconclusive id ∧ b.Inconclusive id

end Answer

/-- A look with the same input as one on record, and an exchangeable answer to the question that was
asked there. -/
def Look.StandsInFor (l' : Look S σ) (e : Entry S σ) : Prop :=
  l'.input = e.look.input ∧ ∀ id ∈ e.turn.asked,
    Answer.Exchangeable id (e.look.lookup id).answer (l'.lookup id).answer

theorem Look.standsInFor_of_inconclusive {l' : Look S σ} {e : Entry S σ} {id : String}
    (hi : l'.input = e.look.input) (hid : e.turn.asked = [id])
    (h : (e.look.lookup id).answer.Inconclusive id) (h' : (l'.lookup id).answer.Inconclusive id) :
    l'.StandsInFor e := by
  refine ⟨hi, fun i hmem => ?_⟩
  rw [hid, List.mem_singleton] at hmem
  subst hmem
  exact .inr ⟨h, h'⟩

/-- Two looks that differ in the text of one warning at most, and in it only if both lookups were
inconclusive. The events are compared where the lookups themselves log nothing. -/
structure Entry.SameButWarning (e e' : Entry S σ) : Prop where
  /-- They decide the same. -/
  decision : e'.turn.decision = e.turn.decision
  /-- They leave the same snapshot, flag and counters. -/
  memory : e'.turn.memory = e.turn.memory
  /-- They ask for the same identity. -/
  asked : e'.turn.asked = e.turn.asked
  /-- They log the same, apart from what the warning says. -/
  log : (∀ id ∈ e.turn.asked, (e.look.lookup id).log = [] ∧ (e'.look.lookup id).log = []) →
    e'.turn.log = e.turn.log ∨
      ∃ (id : String) (status : σ) (w w' : Event σ), e.turn.asked = [id] ∧
        (e.look.lookup id).answer.Inconclusive id ∧ (e'.look.lookup id).answer.Inconclusive id ∧
        e.turn.log = [.inconclusive id status, w] ∧ e'.turn.log = [.inconclusive id status, w'] ∧
        w.level = .warn ∧ w'.level = .warn

theorem Entry.SameButWarning.of_turn_eq {e e' : Entry S σ} (h : e'.turn = e.turn) :
    e.SameButWarning e' where
  decision := by rw [h]
  memory := by rw [h]
  asked := by rw [h]
  log := fun _ => .inl (by rw [h])

namespace Config

variable [DecidableEq σ] [Status σ] {c : Config σ} {m : Memory S} {l l' : Look S σ}

/-- An inconclusive answer decides nothing, leaves the stale snapshot where it was, and is warned
of. -/
theorem weigh_of_inconclusive (c : Config σ) (stale : S) {id : String} {answer : Answer S}
    (h : answer.Inconclusive id) :
    ∃ e : Event σ, e.level = .warn ∧ c.weigh id stale answer = ⟨.retry, some stale, e⟩ := by
  cases answer with
  | found fresh => exact ⟨_, rfl, if_neg h⟩
  | gone => exact h.elim
  | failed error => exact ⟨_, rfl, rfl⟩

theorem subject?_look_congr (c : Config σ) (m : Memory S) (hi : l'.input = l.input) :
    (c.look m l').subject? = (c.look m l).subject? := by
  simp only [look, Entry.subject?, Entry.input, hi]

/-- A look that stands in for another differs from it in what it warns of at most. -/
theorem look_of_standsInFor (h : l'.StandsInFor (c.look m l)) :
    (c.look m l).SameButWarning (c.look m l') := by
  have hsub : (c.look m l').subject? = (c.look m l).subject? := c.subject?_look_congr m h.1
  have ha : ∀ id ∈ (c.look m l).turn.asked,
      Answer.Exchangeable id (l.lookup id).answer (l'.lookup id).answer := h.2
  cases hs : (c.look m l).subject? with
  | none => exact .of_turn_eq ((look_absent (hsub.trans hs)).trans (look_absent hs).symm)
  | some p =>
    obtain ⟨id, s⟩ := p
    by_cases ht : c.standing (Snapshot.status s) = .transitional
    · have hl := look_transitional hs ht
      have hl' := look_transitional (hsub.trans hs) ht
      have hid : id ∈ (c.look m l).turn.asked := by simp [hl]
      have hsilent (hlog : ∀ i ∈ (c.look m l).turn.asked,
          ((c.look m l).look.lookup i).log = [] ∧ ((c.look m l').look.lookup i).log = []) :
          (l.lookup id).log = [] ∧ (l'.lookup id).log = [] := hlog id hid
      rcases ha id hid with hsame | ⟨hinc, hinc'⟩
      · -- The answers are the same, but the two lookups may have logged different things.
        rw [← hsame] at hl'
        refine ⟨by rw [hl, hl'], by rw [hl, hl'], by rw [hl, hl'], fun hlog => .inl ?_⟩
        rw [hl, hl', (hsilent hlog).1, (hsilent hlog).2]
      · obtain ⟨w, hw, hweigh⟩ := c.weigh_of_inconclusive s hinc
        obtain ⟨w', hw', hweigh'⟩ := c.weigh_of_inconclusive s hinc'
        rw [hweigh] at hl
        rw [hweigh'] at hl'
        refine ⟨by rw [hl, hl'], by rw [hl, hl'], by rw [hl, hl'], fun hlog => .inr ?_⟩
        refine ⟨id, Snapshot.status s, w, w', by rw [hl], hinc, hinc', ?_, ?_, hw, hw'⟩
        · simp [hl, (hsilent hlog).1]
        · simp [hl', (hsilent hlog).2]
    · exact .of_turn_eq ((look_decided (hsub.trans hs) ht).trans (look_decided hs ht).symm)

/-- **The kind of trouble does not matter.** Two runs start from the same memory and are given the
same inputs, and the questions that the first asks get the same answers in both or inconclusive ones.
Then look by look the two decide, remember, count and ask the same, and where the lookups log nothing
themselves, they log the same apart from what a warning about an inconclusive answer says. -/
theorem run_exchange (c : Config σ) (m : Memory S) (looks looks' : List (Look S σ))
    (h : List.Forall₂ (fun e l' => l'.StandsInFor e) (c.run m looks) looks') :
    List.Forall₂ Entry.SameButWarning (c.run m looks) (c.run m looks') := by
  induction looks generalizing m looks' with
  | nil =>
    cases h
    exact .nil
  | cons l looks ih =>
    obtain _ | @⟨_, l', _, looks', hl, hrest⟩ := h
    have hlook : (c.look m l).SameButWarning (c.look m l') := look_of_standsInFor hl
    rw [run, run, hlook.memory]
    exact .cons hlook (ih _ _ hrest)

/-- After some trouble, an answer about another node that is up may as well be an error of the setup,
and a lost lookup an answer about a node without an identity that is broken. -/
theorem run_exchange_after_trouble :
    let m := untilRunning.after .fresh troubledLooks
    let suspended : Input Node := .given (some (.new "n1" .suspended))
    let looks : List (Look Node NodeStatus) :=
      [⟨.lastSeen, fun _ => ⟨.found (.new "n2" .running), []⟩⟩,
        ⟨suspended, fun id => ⟨.failed (.transport id "timed out"), []⟩⟩,
        ⟨.lastSeen, fun id => ⟨.found (.new id .running), []⟩⟩]
    let looks' : List (Look Node NodeStatus) :=
      [⟨.lastSeen, fun _ => ⟨.failed (.setup (.unknownStatus "up")), []⟩⟩,
        ⟨suspended, fun _ => ⟨.found (.unidentified .error), []⟩⟩,
        ⟨.lastSeen, fun id => ⟨.found (.new id .running), []⟩⟩]
    List.Forall₂ (fun e l' => l'.StandsInFor e) (untilRunning.run m looks) looks' ∧
      List.Forall₂ Entry.SameButWarning (untilRunning.run m looks) (untilRunning.run m looks') := by
  intro m suspended looks looks'
  have h : List.Forall₂ (fun e l' => l'.StandsInFor e) (untilRunning.run m looks) looks' := by
    refine .cons ?_ <| .cons ?_ <| .cons ?_ .nil
    · exact Look.standsInFor_of_inconclusive rfl rfl (by decide) (by decide)
    · exact Look.standsInFor_of_inconclusive rfl rfl (by decide) (by decide)
    · exact ⟨rfl, fun _ _ => .inl rfl⟩
  exact ⟨h, run_exchange untilRunning m looks looks' h⟩

end Config

end StatusWait
