import StatusWait.Proofs.Origin
import StatusWait.Proofs.Run

/-!
# The catch-all in a wait

A status that this library does not know is read as the catch-all. No wait is for the catch-all, so one would
expect a resource in such a status to be on its way, and it is, unless the catch-all was listed among the
invalid statuses. That happens by its own name, and also by a name in a document that is misspelt, since such
a name is read as the catch-all too.

## What is proved

* `Status.ofWire_eq_unrecognized_iff` — which spellings are read as the catch-all.
* `standing_unrecognized` — the standing of the catch-all, from what the caller has stated.
* `Config.unrecognized_not_always_transitional` — a wait with a misspelt invalid status fails at once on a
  resource in a status that it does not know.
* `Config.unrecognized_transitional_unless_listed` — every other wait looks such a resource up.
-/

namespace StatusWait

variable {S σ : Type} [DecidableEq σ] [Status σ]

omit [DecidableEq σ] in
/-- The spellings that are read as the catch-all are those of no other status. -/
theorem Status.ofWire_eq_unrecognized_iff {w : String} :
    (ofWire w : σ) = unrecognized ↔ ∀ s : σ, s ≠ unrecognized → wire s ≠ w := by
  constructor
  · rintro h s hs rfl
    exact hs ((ofWire_wire s).symm.trans h)
  · intro h
    by_cases hw : ∃ s : σ, wire s = w
    · obtain ⟨s, rfl⟩ := hw
      rw [ofWire_wire]
      exact Classical.not_not.1 fun hs => h s hs rfl
    · exact ofWire_eq_unrecognized fun s hs => hw ⟨s, hs⟩

section

variable [Snapshot S σ] {o : Origin σ} {c : Config σ} {d : Declaration σ}

/-- The standing of the catch-all is that of any status but the target: it is invalid if it was listed. -/
theorem standing_unrecognized (h : o.config? S = some c) (hd : o.stated? = some d) :
    c.standing Status.unrecognized =
      if Status.unrecognized ∈ d.invalid then .invalid else .transitional := by
  obtain ⟨d', hd', ⟨hu, -⟩, ht, hi⟩ := Origin.exists_stated h
  obtain rfl : d' = d := Option.some.inj (hd'.symm.trans hd)
  split
  · next hl => exact Config.standing_eq_invalid_iff.2 ((hi _).2 hl)
  · next hl =>
    refine Config.standing_eq_transitional_iff.2 ⟨fun he => hu ?_, fun hmem => hl ((hi _).1 hmem)⟩
    rw [← ht, he]

end

namespace Config

variable [Snapshot S σ] {c : Config σ} {m : Memory S} {l : Look S σ} {id : String} {s f : S}

theorem decision_of_fresh (hs : (c.look m l).subject? = some (id, s))
    (ha : (c.look m l).answer? = some (.found f)) (hf : Snapshot.id? f = some id) :
    (c.look m l).turn.decision = c.verdict f := by
  rw [answer?_look, hs] at ha
  obtain ⟨ht, ha⟩ : c.standing (Snapshot.status s) = .transitional ∧ (l.lookup id).answer = .found f := by
    simpa using ha
  rw [look_transitional hs ht, ha]
  show (c.weigh id s (.found f)).decision = c.verdict f
  rw [weigh_found hf, decision_settle]

/-- A document in which the name of an invalid status is misspelt. -/
def misspelt : String := "target = \"RUNNING\"\ninvalid = [\"ERORR\"]\n"

/-- The configuration that it declares: the catch-all is invalid. -/
def untilRunningMisspelt : Config NodeStatus :=
  ⟨.running, [.unrecognized], untilRunning.target_ne_unrecognized, by decide, by decide⟩

/-- **An unrecognised status is not always transitional.** The misspelt document is accepted, and a new wait
with its configuration that is handed a node in a status unknown to it fails at once, without the lookup that
would have found the node in the same status. -/
theorem unrecognized_not_always_transitional :
    let look : Look Node NodeStatus :=
      ⟨.given (some (.new "n1" .unrecognized)), fun id => ⟨.found (.new id .unrecognized), []⟩⟩
    let e := untilRunningMisspelt.look .fresh look
    (Origin.toml misspelt unexplained).config? Node = some untilRunningMisspelt ∧
      e.subject? = some ("n1", .new "n1" .unrecognized) ∧
      e.turn.asked = [] ∧ e.turn.decision = .fail := by
  decide +kernel

/-- **An unrecognised status is transitional unless it was listed.** Let a configuration come of an origin
that does not list the catch-all as invalid. Then every look at a subject in that status makes one lookup, of
the subject's identity, and ends the wait only with a fresh snapshot of the same resource that calls for it;
and a fresh snapshot in that status never does. If the catch-all was listed, it is invalid like any other: the
subject fails the look without a lookup, and so does a fresh snapshot after one. A document lists it by its
own name and by every name that no other status has. -/
theorem unrecognized_transitional_unless_listed {o : Origin σ} {c : Config σ}
    (h : o.config? S = some c) (looks : List (Look S σ)) (l : Look S σ) :
    (∀ w, (Status.ofWire w : σ) = Status.unrecognized ↔
      ∀ s : σ, s ≠ Status.unrecognized → Status.wire s ≠ w) ∧
    ∃ d, o.stated? = some d ∧
      let e := c.look (c.after .fresh looks) l
      (Status.unrecognized ∉ d.invalid →
        (∀ id s, e.subject? = some (id, s) → Snapshot.status s = Status.unrecognized →
          e.turn.asked = [id] ∧ e.turn.memory.refreshes = bump e.before.refreshes ∧
          ∀ decision, decision ≠ .retry → (e.turn.decision = decision ↔
            ∃ f, e.answer? = some (.found f) ∧ Snapshot.id? f = some id ∧ c.verdict f = decision)) ∧
        ∀ id s f, e.subject? = some (id, s) → e.answer? = some (.found f) → Snapshot.id? f = some id →
          Snapshot.status f = Status.unrecognized → e.turn.decision = .retry) ∧
      (Status.unrecognized ∈ d.invalid →
        (∀ id s, e.subject? = some (id, s) → Snapshot.status s = Status.unrecognized →
          e.turn.asked = [] ∧ e.turn.decision = .fail) ∧
        ∀ id s f, e.subject? = some (id, s) → e.answer? = some (.found f) → Snapshot.id? f = some id →
          Snapshot.status f = Status.unrecognized → e.turn.decision = .fail) := by
  obtain ⟨d, hd, -⟩ := Origin.exists_stated h
  have hstanding := standing_unrecognized h hd
  refine ⟨fun w => Status.ofWire_eq_unrecognized_iff, d, hd, ?_⟩
  intro e
  refine ⟨fun hl => ?_, fun hl => ?_⟩
  · rw [if_neg hl] at hstanding
    refine ⟨fun id s hs hu => ?_, fun id s f hs ha hf hu => ?_⟩
    · have ht : c.standing (Snapshot.status s) = .transitional := by rw [hu, hstanding]
      have hturn : e.turn = _ := look_transitional hs ht
      refine ⟨by rw [hturn], by rw [hturn]; rfl, fun decision hd => ?_⟩
      have hv : c.verdict s ≠ decision := by
        rw [verdict_eq_retry_iff.2 ht]
        exact hd.symm
      have hiff : e.turn.decision = decision ↔ _ := decision_look_eq_iff hd hs
      rw [hiff, or_iff_right hv]
    · have hdecision : e.turn.decision = c.verdict f := decision_of_fresh hs ha hf
      rw [hdecision, verdict_eq_retry_iff, hu, hstanding]
  · rw [if_pos hl] at hstanding
    refine ⟨fun id s hs hu => ?_, fun id s f hs ha hf hu => ?_⟩
    · have hi : c.standing (Snapshot.status s) = .invalid := by rw [hu, hstanding]
      have hturn : e.turn = _ := look_decided hs (by rw [hi]; decide)
      refine ⟨by rw [hturn], ?_⟩
      rw [hturn, verdict, hi]
      rfl
    · have hdecision : e.turn.decision = c.verdict f := decision_of_fresh hs ha hf
      rw [hdecision, verdict, hu, hstanding]
      rfl

/-- With the default invalid statuses a wait for a running node looks up a node in an unknown status, after
some trouble, and goes on when it finds it so. With the misspelt document it fails. -/
theorem unrecognized_transitional_by_default :
    let standard : Origin NodeStatus := .alone .running
    let look : Look Node NodeStatus :=
      ⟨.given (some (.new "n1" .unrecognized)), fun id => ⟨.found (.new id .unrecognized), []⟩⟩
    let e := untilRunning.look (untilRunning.after .fresh troubledLooks) look
    let e' := untilRunningMisspelt.look (untilRunningMisspelt.after .fresh troubledLooks) look
    (standard.config? Node = some untilRunning ∧ e.turn.asked = ["n1"] ∧ e.turn.decision = .retry) ∧
    ((Origin.toml misspelt unexplained).config? Node = some untilRunningMisspelt ∧
      e'.turn.asked = [] ∧ e'.turn.decision = .fail) := by
  intro standard look e e'
  have hstandard : standard.config? Node = some untilRunning := by decide +kernel
  have hmisspelt : (Origin.toml misspelt unexplained).config? Node = some untilRunningMisspelt := by decide +kernel
  have hlisted : (Origin.toml misspelt unexplained).stated? = some ⟨NodeStatus.running, [.unrecognized]⟩ := by
    decide +kernel
  obtain ⟨-, d, hd, htransitional, -⟩ :=
    unrecognized_transitional_unless_listed hstandard troubledLooks look
  obtain ⟨-, d', hd', -, hinvalid⟩ :=
    unrecognized_transitional_unless_listed hmisspelt troubledLooks look
  obtain rfl : ⟨.running, Status.defaultInvalid⟩ = d := Option.some.inj hd
  obtain rfl : ⟨.running, [.unrecognized]⟩ = d' := Option.some.inj (hlisted.symm.trans hd')
  obtain ⟨hlookup, hfresh⟩ := htransitional Status.unrecognized_not_mem_defaultInvalid
  obtain ⟨hfail, -⟩ := hinvalid (by decide)
  exact ⟨⟨hstandard, (hlookup "n1" _ rfl rfl).1, hfresh "n1" _ _ rfl rfl rfl rfl⟩, hmisspelt,
    hfail "n1" _ rfl rfl⟩

end Config

end StatusWait
