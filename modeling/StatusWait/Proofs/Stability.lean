import StatusWait.Proofs.Likeness
import StatusWait.Proofs.Operation

/-!
# Once decided, always decided

A caller may go on looking after a wait has ended. This module says that it gets the same decision as often as
it looks, and that no lookup is spent on it, as long as it hands in no other snapshot with an identity.

## The model

A wait ends because of a snapshot that was handed in, because of one that was looked up, or because the
resource is gone. What it remembers then is `Settled` on the decision: either a snapshot with an identity that
calls for the decision, or nothing but the flag that there has been a lookup. An input `Repeats` what is known
if it is nothing, a snapshot without an identity, or the snapshot that is remembered. A memory is `Kept` if
no more than the count of looks has changed in it.

## What is proved

* `Settled.of_isTerminal` — whatever ended the wait, what it remembers is settled on the decision.
* `Settled.evaluate` — a look that is given nothing new repeats the decision and asks for nothing, so the
  memory stays settled.
* `Settled.run` and `Settled.session_run` — so do any number of looks, and a source of which they might have
  asked stays as it is, with the answers that are left in it.
-/

namespace StatusWait

variable {S σ : Type}

/-! ### What stays -/

/-- Two memories that differ in the count of looks at most. -/
structure Memory.Kept (m m' : Memory S) : Prop where
  /-- The same snapshot is remembered. -/
  lastSeen : m'.lastSeen = m.lastSeen
  /-- Both know of a lookup, or neither does. -/
  refreshAttempted : m'.refreshAttempted = m.refreshAttempted
  /-- They have counted the same lookups. -/
  refreshes : m'.refreshes = m.refreshes

theorem Memory.Kept.looked {m m' : Memory S} (h : m.looked.Kept m') : m.Kept m' := by
  obtain ⟨hs, ht, hr⟩ := h
  exact ⟨hs, ht, hr⟩

variable [Snapshot S σ]

/-- The inputs that tell a wait nothing that it does not know, if it remembers `seen`. -/
inductive Input.Repeats (seen : Option S) : Input S → Prop
  /-- Nothing is handed in. -/
  | nothing : Repeats seen (.given none)
  /-- A snapshot without an identity is, whatever its status. -/
  | unidentified {s : S} (h : Snapshot.id? s = none) : Repeats seen (.given (some s))
  /-- The wait is given what it remembers. -/
  | lastSeen : Repeats seen .lastSeen
  /-- A copy of what the wait remembers is handed in. -/
  | copy : Repeats seen (.given seen)

theorem Input.Repeats.subject? {m : Memory S} {i : Input S} (h : i.Repeats m.lastSeen) :
    subject? m (i.resolve m) = m.lastSeen.bind Snapshot.identified? := by
  cases h with
  | nothing => exact subject?_resolve_of_identity?_eq_none rfl
  | unidentified h => exact subject?_resolve_of_identity?_eq_none h
  | lastSeen => exact subject?_resolve_of_identity?_eq_none rfl
  | copy => exact subject?_resolve_of_identity?_eq_none (i := .lastSeen) rfl

variable [DecidableEq σ] [Status σ]

/-- The memories of a wait that answers `d` until something new is handed in. -/
inductive Settled (c : Config σ) (d : Decision) (m : Memory S) : Prop
  /-- The snapshot that is remembered has an identity and calls for the decision. -/
  | seen {s : S} {id : String} (hm : m.lastSeen = some s) (hid : Snapshot.id? s = some id)
      (hs : c.verdict s = d) (hd : d ≠ .retry)
  /-- Nothing is remembered, since the resource is gone. -/
  | gone (hm : m.lastSeen = none) (ht : m.refreshAttempted = true) (hd : d = .fail)

namespace Settled

variable {c : Config σ} {d : Decision} {m : Memory S} {i : Input S}

theorem looked (h : Settled c d m) : Settled c d m.looked := by
  cases h with
  | seen hm hid hs hd => exact .seen hm hid hs hd
  | gone hm ht hd => exact .gone hm ht hd

/-- **Whatever ended the wait, what it remembers is settled on the decision.** -/
theorem of_isTerminal {es : List (Entry S σ)} {l : Look S σ} (h : Reflects es m)
    (hd : (c.look m l).turn.decision.isTerminal = true) :
    Settled c (c.look m l).turn.decision (c.look m l).turn.memory := by
  have hne : (c.look m l).turn.decision ≠ .retry := Decision.isTerminal_iff.1 hd
  cases hm : (c.look m l).turn.memory.lastSeen with
  | some s =>
    obtain ⟨id, hid, -⟩ := (h.look c l).latest_identity?_of_lastSeen hm
    exact .seen hm hid (h.decision_of_lastSeen hm).symm hne
  | none =>
    -- A look that remembers nothing ends the wait only if it had no subject.
    have hdecision := Reflects.decision_of_lastSeen_none hm
    by_cases hgone : (c.look m l).subject? = none ∧ m.refreshAttempted = true
    · rw [if_pos hgone] at hdecision
      refine .gone hm ?_ hdecision
      rw [Config.memory_look_absent hgone.1, Memory.refreshAttempted_looked]
      exact hgone.2
    · rw [if_neg hgone] at hdecision
      exact absurd hdecision hne

/-- **A look that is given nothing new repeats the decision**, and changes nothing but the count of looks. -/
theorem evaluate (h : Settled c d m) (hi : i.Repeats m.lastSeen) (lookup : String → Reply S σ) :
    ∃ event, c.evaluate m (i.resolve m) lookup = ⟨d, m.looked, [event], []⟩ := by
  have hsubject := hi.subject?
  cases h with
  | @seen s id hm hid hs hd =>
    have hsome : StatusWait.subject? m (i.resolve m) = some (id, s) := by
      rw [hsubject]
      exact bind_identified?_eq_some_iff.2 ⟨hm, hid⟩
    have hstanding : c.standing (Snapshot.status s) ≠ .transitional := by
      intro ht
      apply hd
      rw [← hs]
      exact Config.verdict_eq_retry_iff.2 ht
    have hsame : m.looked.remember (some s) = m.looked := by
      rw [← hm]
      rfl
    exact ⟨_, by rw [Config.evaluate_decided hsome hstanding, hs, hsame]⟩
  | gone hm ht hd =>
    have hnone : StatusWait.subject? m (i.resolve m) = none := by
      rw [hsubject, hm]
      rfl
    exact ⟨_, by rw [Config.evaluate_absent hnone, if_pos ht, hd]⟩

/-! ### Any number of looks -/

/-- Looks that are given nothing new repeat the decision, ask for nothing and keep the memory. -/
theorem run {looks : List (Look S σ)} (h : Settled c d m)
    (hl : ∀ l ∈ looks, l.input.Repeats m.lastSeen) : ∀ e ∈ c.run m looks,
      e.turn.decision = d ∧ e.turn.asked = [] ∧ m.Kept e.turn.memory := by
  induction looks generalizing m with
  | nil =>
    intro e he
    cases he
  | cons l looks ih =>
    obtain ⟨event, hturn⟩ := h.evaluate (hl l List.mem_cons_self) l.lookup
    have hlook : (c.look m l).turn = ⟨d, m.looked, [event], []⟩ := hturn
    intro e he
    rw [Config.run, hlook] at he
    rcases List.mem_cons.1 he with rfl | he
    · rw [hlook]
      exact ⟨rfl, rfl, rfl, rfl, rfl⟩
    · obtain ⟨hdecision, hasked, hkept⟩ := ih h.looked (fun l' hl' => hl l' (List.mem_cons_of_mem l hl')) e he
      exact ⟨hdecision, hasked, hkept.looked⟩

theorem session_step {x : Session S σ} {p : Nat} {w : Wait S σ} (h : Settled w.config d w.memory)
    (hw : x.wait? p = some w) (hi : i.Repeats w.memory.lastSeen) :
    ∃ event, x.step (.evaluate p i) =
      (⟨x.source, x.waits.set p (some ⟨w.config, w.layers, w.memory.looked⟩)⟩,
        ⟨.evaluated d w.memory.looked x.source.calls, [event], []⟩) := by
  obtain ⟨event, hturn⟩ := h.evaluate hi (Layer.wrap w.layers x.source.lookup)
  have hlook : w.evaluate (i.resolve w.memory) x.source.lookup = ⟨d, w.memory.looked, [event], []⟩ := hturn
  refine ⟨event, ?_⟩
  rw [Session.step_evaluate hw, Session.evaluate, hlook]
  rfl

/-- So do any number of such looks, and each of them repeats the decision. -/
theorem session_run {x : Session S σ} {p : Nat} {w : Wait S σ} {inputs : List (Input S)}
    (h : Settled w.config d w.memory) (hw : x.wait? p = some w)
    (hi : ∀ i ∈ inputs, i.Repeats w.memory.lastSeen) :
    (x.run (inputs.map (.evaluate p))).1.source = x.source ∧
      ∀ r ∈ (x.run (inputs.map (.evaluate p))).2, r.asked = [] ∧
        ∃ m, r.result = .evaluated d m x.source.calls ∧ w.memory.Kept m := by
  induction inputs generalizing x w with
  | nil =>
    refine ⟨rfl, ?_⟩
    intro r hr
    cases hr
  | cons i inputs ih =>
    obtain ⟨event, hstep⟩ := h.session_step hw (hi i List.mem_cons_self)
    obtain ⟨hsource, hresponses⟩ := ih (x := ⟨x.source, x.waits.set p (some ⟨w.config, w.layers, w.memory.looked⟩)⟩)
      h.looked (Session.wait?_set_self hw _ _) fun j hj => hi j (List.mem_cons_of_mem i hj)
    simp only [List.map_cons, Session.run, hstep]
    refine ⟨hsource, ?_⟩
    intro r hr
    rcases List.mem_cons.1 hr with rfl | hr
    · exact ⟨rfl, _, rfl, rfl, rfl, rfl⟩
    · obtain ⟨hasked, m, hresult, hkept⟩ := hresponses r hr
      exact ⟨hasked, m, hresult, hkept.looked⟩

end Settled

namespace Config

/-- **A terminal decision is stable.** Let the last look of a run have ended the wait. Then all further looks that
are given nothing new, however many, decide the same, ask for nothing, get no answer, and keep the snapshot, the
flag and the count of lookups. Wherever the wait is in a session, such looks leave the source as it is, with its
count of questions and the answers that are left in it. -/
theorem terminal_decision_stays (c : Config σ) (looks : List (Look S σ)) (l : Look S σ)
    (h : (c.look (c.after .fresh looks) l).turn.decision.isTerminal = true) :
    let e := c.look (c.after .fresh looks) l
    let m := e.turn.memory
    (∀ further : List (Look S σ), (∀ l' ∈ further, l'.input.Repeats m.lastSeen) →
      ∀ e' ∈ c.run m further, e'.turn.decision = e.turn.decision ∧ e'.turn.asked = [] ∧
        e'.answer? = none ∧ m.Kept e'.turn.memory) ∧
    ∀ (x : Session S σ) (p : Nat) (w : Wait S σ), x.wait? p = some w → w.config = c → w.memory = m →
      ∀ inputs : List (Input S), (∀ i ∈ inputs, i.Repeats m.lastSeen) →
        (x.run (inputs.map (.evaluate p))).1.source = x.source ∧
        ∀ r ∈ (x.run (inputs.map (.evaluate p))).2, r.asked = [] ∧
          ∃ m', r.result = .evaluated e.turn.decision m' x.source.calls ∧ m.Kept m' := by
  intro e m
  have hsettled : Settled c e.turn.decision m := .of_isTerminal (.of_run c looks) h
  refine ⟨fun further hf e' he' => ?_, fun x p w hw hc hm inputs hi => ?_⟩
  · obtain ⟨hdecision, hasked, hkept⟩ := hsettled.run hf e' he'
    refine ⟨hdecision, hasked, ?_, hkept⟩
    rw [Entry.answer?, hasked]
    rfl
  · rw [← hc, ← hm] at hsettled
    rw [← hm] at hi ⊢
    exact hsettled.session_run hw hi

/-- After some trouble a node is found up, and after a lost lookup it is found gone. From then on a look at
nothing, at a node without an identity that is broken, or at what is remembered passes in the one case and fails
in the other, whatever a lookup would find. In a session with a script, the answer that is left in it stays. -/
theorem terminal_decision_stays_up_and_gone :
    let inputs : List (Input Node) :=
      [.given none, .given (some (.unidentified .error)), .lastSeen, .given (some (.new "n1" .running))]
    let further : List (Look Node NodeStatus) :=
      (inputs.take 3).map fun i => ⟨i, fun id => ⟨.found (.new id .error), []⟩⟩
    let up := untilRunning.look (untilRunning.after .fresh troubledLooks)
      ⟨.lastSeen, fun id => ⟨.found (.new id .running), []⟩⟩
    let lost := untilRunning.look (untilRunning.after .fresh lostLooks) ⟨.given none, fun _ => ⟨.gone, []⟩⟩
    let x : Session Node NodeStatus :=
      ⟨.ofScript [.found (.new "n1" .error)], [some ⟨untilRunning, [.tracing], up.turn.memory⟩]⟩
    (up.turn.decision = .pass ∧ (∀ i ∈ inputs, i.Repeats up.turn.memory.lastSeen) ∧
      (x.run (inputs.map (.evaluate 0))).1.source = x.source) ∧
    (lost.turn.decision = .fail ∧ (∀ l ∈ further, l.input.Repeats lost.turn.memory.lastSeen) ∧
      ∀ e ∈ untilRunning.run lost.turn.memory further, e.turn.decision = .fail ∧ e.turn.asked = []) := by
  intro inputs further up lost x
  have hinputs : ∀ i ∈ inputs, i.Repeats up.turn.memory.lastSeen := by
    intro i hi
    simp only [inputs, List.mem_cons, List.not_mem_nil, or_false] at hi
    rcases hi with rfl | rfl | rfl | rfl
    · exact .nothing
    · exact .unidentified rfl
    · exact .lastSeen
    · exact .copy
  have hfurther : ∀ l ∈ further, l.input.Repeats lost.turn.memory.lastSeen := by
    intro l hl
    simp only [further, inputs, List.take_succ_cons, List.take_zero, List.map_cons, List.map_nil,
      List.mem_cons, List.not_mem_nil, or_false] at hl
    rcases hl with rfl | rfl | rfl
    · exact .nothing
    · exact .unidentified rfl
    · exact .lastSeen
  obtain ⟨-, hsession⟩ := terminal_decision_stays untilRunning troubledLooks up.look rfl
  obtain ⟨hlost, -⟩ := terminal_decision_stays untilRunning lostLooks lost.look rfl
  refine ⟨⟨rfl, hinputs, (hsession x 0 _ rfl rfl rfl inputs hinputs).1⟩, rfl, hfurther, fun e he => ?_⟩
  obtain ⟨hdecision, hasked, -⟩ := hlost further hfurther e he
  exact ⟨hdecision, hasked⟩

end Config

end StatusWait
