import StatusWait.Config.Declaration
import StatusWait.Proofs.Look
import StatusWait.Wait.Plan

/-!
# Where configurations come from

A configuration is built from a target and a list, read from a document or a file, taken from a JSON text, or
put together piece by piece on the way to a wait. This module says that all these ways lead through one check,
so that none of them lets a target be the catch-all or an invalid status.

## The model

An `Origin` is one of the ways with all that the caller gives. `Origin.config?` is the configuration that
comes of it, by the functions that callers use, and `Origin.stated?` the target and the list that the caller
has stated, before anybody checked them.

## What is proved

* `Config.new_eq_ok_iff` — what the check accepts, and what the configuration then is.
* `Config.ext_of_mem` — configurations are told apart by the target and the members of the invalid set.
* `Origin.config?_eq` — what comes of an origin is what the check makes of what it states.
-/

namespace StatusWait

variable {S σ : Type} [DecidableEq σ] [Status σ]

/-! ### The check -/

namespace Config

variable {c c' : Config σ} {t : σ} {l : List σ}

theorem ext_of_mem (ht : c.target = c'.target) (hi : ∀ s, s ∈ c.invalid ↔ s ∈ c'.invalid) : c = c' := by
  refine Config.ext ht ?_
  calc c.invalid = Status.all.filter fun s => decide (s ∈ c.invalid) := c.invalid_ordered.symm
    _ = Status.all.filter fun s => decide (s ∈ c'.invalid) := by simp only [hi]
    _ = c'.invalid := c'.invalid_ordered

/-- The check accepts a target that names a status and is not in the list, and the configuration is then
for this target and ends early in just the statuses of the list. -/
theorem new_eq_ok_iff : new t l = .ok c ↔
    (t ≠ Status.unrecognized ∧ t ∉ l) ∧ c.target = t ∧ ∀ s, s ∈ c.invalid ↔ s ∈ l := by
  unfold new
  split
  · next hu => simp [hu]
  · next hu =>
    split
    · next hl => simp [hl]
    · next hl =>
      constructor
      · intro h
        cases h
        exact ⟨⟨hu, hl⟩, rfl, fun s => mem_filter_all⟩
      · rintro ⟨-, ht, hi⟩
        exact congrArg Except.ok (ext_of_mem ht.symm fun s => mem_filter_all.trans (hi s).symm)

/-- The check refuses the catch-all first, and then a target that is in the list. -/
theorem new_eq_error_iff {conflict : Conflict σ} : new t l = .error conflict ↔
    (t = Status.unrecognized ∧ conflict = .unwaitable t) ∨
      (t ≠ Status.unrecognized ∧ t ∈ l ∧ conflict = .overlap t) := by
  unfold new
  split
  · next hu => simp [hu, eq_comm]
  · next hu =>
    split
    · next hl => simp [hu, hl, eq_comm]
    · next hl => simp [hu, hl]

theorem exists_new_eq_ok_iff : (∃ c, new t l = .ok c) ↔ t ≠ Status.unrecognized ∧ t ∉ l := by
  constructor
  · rintro ⟨c, hc⟩
    exact (new_eq_ok_iff.1 hc).1
  · rintro ⟨hu, hl⟩
    exact ⟨_, by rw [new, dif_neg hu, dif_neg hl]⟩

theorem exists_new_eq_error_iff :
    (∃ conflict, new t l = .error conflict) ↔ t = Status.unrecognized ∨ t ∈ l := by
  constructor
  · rintro ⟨conflict, h⟩
    rcases new_eq_error_iff.1 h with ⟨hu, -⟩ | ⟨-, hl, -⟩
    · exact .inl hu
    · exact .inr hl
  · intro h
    by_cases hu : t = Status.unrecognized
    · exact ⟨_, new_eq_error_iff.2 (.inl ⟨hu, rfl⟩)⟩
    · exact ⟨_, new_eq_error_iff.2 (.inr ⟨hu, h.resolve_left hu, rfl⟩)⟩

theorem isTarget_iff {s : σ} : c.isTarget s = true ↔ s = c.target := by simp [isTarget]

theorem isInvalid_iff {s : σ} : c.isInvalid s = true ↔ s ∈ c.invalid := by simp [isInvalid]

end Config

/-! ### The origins -/

/-- The ways to a configuration, each with what the caller gives. -/
inductive Origin (σ : Type) [DecidableEq σ] [Status σ]
  /-- A target and a list of invalid statuses. -/
  | pair (target : σ) (invalid : List σ)
  /-- A target, with the default invalid statuses. -/
  | alone (target : σ)
  /-- A TOML text, with the words of the parser for texts that it refuses. -/
  | toml (text : String) (explain : String → String)
  /-- A file, which may hold a TOML text. -/
  | file (found : File) (explain : String → String)
  /-- A JSON text. -/
  | json (text : String)
  /-- Settings of a plan for a wait. -/
  | plan (settings : List (Setting σ))
  /-- A wait for a target through a client, with invalid statuses or the default ones. -/
  | client (target : σ) (invalid : Option (List σ)) (layers : List Layer)

/-- What the settings of a plan state, where they make up a wait at all: a target with a list of invalid
statuses or the default ones, or a configuration on its own. -/
def Plan.stated? (p : Plan σ) : Option (Declaration σ) :=
  match p.lookup, p.config, p.target, p.invalid with
  | some _, none, some target, invalid => some ⟨target, invalid.getD Status.defaultInvalid⟩
  | some _, some config, none, none => some ⟨config.target, config.invalid⟩
  | _, _, _, _ => none

namespace Origin

/-- The target and the invalid statuses that an origin states, if it is of the right form to state any. -/
def stated? : Origin σ → Option (Declaration σ)
  | pair target invalid => some ⟨target, invalid⟩
  | alone target => some ⟨target, Status.defaultInvalid⟩
  | toml text _ => Toml.read text >>= Declaration.ofToml?
  | file (.bytes content) _ => String.fromUTF8? content >>= Toml.read >>= Declaration.ofToml?
  | file _ _ => none
  | json text => Json.read text >>= Declaration.ofJson?
  | plan settings => (Plan.empty.setAll settings).stated?
  | client target invalid _ => some ⟨target, invalid.getD Status.defaultInvalid⟩

section

variable (S : Type) [Snapshot S σ]

/-- The configuration that comes of an origin, by the functions that callers use; `S` is the kind of
snapshots that a wait is for. -/
def config? : Origin σ → Option (Config σ)
  | pair target invalid => (Config.new target invalid).toOption
  | alone target => (Config.withDefaultInvalid target).toOption
  | toml text explain => (Config.readToml text explain).toOption
  | file found explain => (Config.ofFile found explain).toOption
  | json text => (Config.readJson text).toOption
  | plan settings =>
      ((Plan.empty.setAll settings).build : Except _ (Wait S σ)).toOption.map Wait.config
  | client target invalid layers =>
      (Wait.forTarget target invalid layers : Except _ (Wait S σ)).toOption.map Wait.config

end

end Origin

/-! ### One check for all -/

/-- The configuration that the check makes of a declaration. -/
def Declaration.checked? (d : Declaration σ) : Option (Config σ) := d.toConfig.toOption

theorem Declaration.checked?_eq_some_iff {d : Declaration σ} {c : Config σ} :
    d.checked? = some c ↔ Config.new d.target d.invalid = .ok c := by
  rw [checked?, toConfig]
  cases Config.new d.target d.invalid <;> simp [Except.toOption]

theorem toOption_mapError {ε ε' α : Type} (f : ε → ε') (r : Except ε α) :
    (r.mapError f).toOption = r.toOption := by
  cases r <;> rfl

theorem mapError_eq_error_iff {ε ε' α : Type} {f : ε → ε'} {r : Except ε α} {e : ε'} :
    r.mapError f = .error e ↔ ∃ x, r = .error x ∧ f x = e := by
  constructor
  · intro h
    cases r with
    | ok a => cases h
    | error x => exact ⟨x, rfl, Except.error.inj h⟩
  · rintro ⟨x, rfl, rfl⟩
    rfl

theorem Config.toOption_readToml (text : String) (explain : String → String) :
    (readToml text explain).toOption =
      (Toml.read text >>= Declaration.ofToml?).bind (Declaration.checked? (σ := σ)) := by
  unfold readToml
  cases (Toml.read text >>= Declaration.ofToml? : Option (Declaration σ)) with
  | none => rfl
  | some d => exact toOption_mapError _ _

/-- A JSON text is checked for what it declares, and has to end with it. -/
theorem Config.toOption_readJson (text : String) : (readJson text).toOption =
    (Json.read text >>= Declaration.ofJson?).bind (Declaration.checked? (σ := σ)) := by
  cases hread : Json.readFirst text with
  | none =>
    simp only [readJson, Json.read, hread]
    rfl
  | some p =>
    obtain ⟨v, rest⟩ := p
    cases hd : (Declaration.ofJson? v : Option (Declaration σ)) with
    | none => cases rest <;> simp [readJson, Json.read, hread, hd, Except.toOption]
    | some d =>
      cases hc : d.toConfig <;> cases rest <;>
        simp [readJson, Json.read, hread, hd, hc, Declaration.checked?, Except.toOption]

/-- The settings of a plan are checked like a declaration, unless they hold a configuration, which has been
checked before. -/
theorem Plan.toOption_build [Snapshot S σ] (p : Plan σ) :
    ((p.build : Except _ (Wait S σ)).toOption.map Wait.config) = p.stated?.bind Declaration.checked? := by
  obtain ⟨target, invalid, config, lookup⟩ := p
  cases lookup with
  | none => rfl
  | some layers =>
    cases config with
    | none =>
      cases target with
      | none => rfl
      | some target =>
        show Option.map Wait.config (Except.toOption (((Config.new target _).mapError _).map _)) =
          (Config.new target (invalid.getD Status.defaultInvalid)).toOption
        cases Config.new target (invalid.getD Status.defaultInvalid) <;> rfl
    | some config =>
      cases target with
      | some target => rfl
      | none =>
        cases invalid with
        | some invalid => rfl
        | none => exact (congrArg Except.toOption config.new_self).symm

theorem Wait.toOption_forTarget [Snapshot S σ] (target : σ) (invalid : Option (List σ))
    (layers : List Layer) :
    ((forTarget target invalid layers : Except _ (Wait S σ)).toOption.map Wait.config) =
      (Config.new target (invalid.getD Status.defaultInvalid)).toOption := by
  unfold forTarget
  cases Config.new target (invalid.getD Status.defaultInvalid) <;> rfl

/-- **What comes of an origin is what the check makes of what it states.** -/
theorem Origin.config?_eq [Snapshot S σ] (o : Origin σ) :
    o.config? S = o.stated?.bind Declaration.checked? := by
  cases o with
  | pair target invalid => rfl
  | alone target => rfl
  | toml text explain => exact Config.toOption_readToml text explain
  | file found explain =>
    cases found with
    | missing => rfl
    | directory => rfl
    | bytes content =>
      show (Config.ofFile (.bytes content) explain).toOption =
        (String.fromUTF8? content >>= Toml.read >>= Declaration.ofToml?).bind Declaration.checked?
      rw [Config.ofFile]
      cases String.fromUTF8? content with
      | none => rfl
      | some text => exact Config.toOption_readToml text explain
  | json text => exact Config.toOption_readJson text
  | plan settings => exact Plan.toOption_build _
  | client target invalid layers => exact Wait.toOption_forTarget target invalid layers

/-- An origin that gives a configuration has stated its target and its invalid statuses, and what it has
stated passes the check. -/
theorem Origin.exists_stated [Snapshot S σ] {o : Origin σ} {c : Config σ} (h : o.config? S = some c) :
    ∃ d, o.stated? = some d ∧ (d.target ≠ Status.unrecognized ∧ d.target ∉ d.invalid) ∧
      c.target = d.target ∧ ∀ s, s ∈ c.invalid ↔ s ∈ d.invalid := by
  rw [config?_eq] at h
  obtain ⟨d, hd, hc⟩ := Option.bind_eq_some_iff.1 h
  exact ⟨d, hd, Config.new_eq_ok_iff.1 (Declaration.checked?_eq_some_iff.1 hc)⟩

/-! ### No contradictions -/

namespace Config

/-- **No way to a configuration lets a contradiction through.** Whatever comes of an origin is what the check
makes of the target and the list that the origin states: the target names a status and is not invalid, so
that each status has one standing and none is both the target and invalid. The check accepts just the targets
that name a status and are not in the list; the configuration then is for this target and has just the
statuses of the list as invalid, and two such configurations are equal exactly if their targets are and
their lists have the same members. -/
theorem no_origin_contradicts_itself [Snapshot S σ] :
    (∀ (o : Origin σ) (c : Config σ), o.config? S = some c →
      (∃ d, o.stated? = some d ∧ (d.target ≠ Status.unrecognized ∧ d.target ∉ d.invalid) ∧
        c.target = d.target ∧ ∀ s, s ∈ c.invalid ↔ s ∈ d.invalid) ∧
      c.target ≠ Status.unrecognized ∧ c.isInvalid c.target = false ∧
      ∀ s, ¬ (c.isTarget s = true ∧ c.isInvalid s = true) ∧
        (c.standing s = .target ↔ c.isTarget s = true) ∧
        (c.standing s = .invalid ↔ c.isInvalid s = true) ∧
        (c.standing s = .transitional ↔ c.isTarget s = false ∧ c.isInvalid s = false)) ∧
    (∀ (t : σ) (l : List σ), (∃ c, new t l = .ok c) ↔ t ≠ Status.unrecognized ∧ t ∉ l) ∧
    (∀ (t : σ) (l : List σ) (c : Config σ), new t l = .ok c →
      ∀ s, (c.isTarget s = true ↔ s = t) ∧ (c.isInvalid s = true ↔ s ∈ l)) ∧
    ∀ (t t' : σ) (l l' : List σ) (c c' : Config σ), new t l = .ok c → new t' l' = .ok c' →
      (c = c' ↔ t = t' ∧ ∀ s, s ∈ l ↔ s ∈ l') := by
  refine ⟨fun o c h => ?_, fun t l => exists_new_eq_ok_iff, fun t l c h s => ?_,
    fun t t' l l' c c' h h' => ?_⟩
  · obtain ⟨d, hd, ⟨hu, hdisjoint⟩, ht, hi⟩ := Origin.exists_stated h
    have hnot : c.target ∉ c.invalid := fun hmem => hdisjoint (ht ▸ (hi _).1 hmem)
    refine ⟨⟨d, hd, ⟨hu, hdisjoint⟩, ht, hi⟩, ht ▸ hu, ?_, fun s => ⟨?_, ?_, ?_, ?_⟩⟩
    · rw [← Bool.not_eq_true, isInvalid_iff]
      exact hnot
    · rintro ⟨htarget, hinvalid⟩
      rw [isTarget_iff] at htarget
      rw [isInvalid_iff, htarget] at hinvalid
      exact hnot hinvalid
    · rw [standing_eq_target_iff, isTarget_iff]
    · rw [standing_eq_invalid_iff, isInvalid_iff]
    · rw [standing_eq_transitional_iff, ← Bool.not_eq_true, ← Bool.not_eq_true, isTarget_iff, isInvalid_iff]
  · obtain ⟨-, ht, hi⟩ := new_eq_ok_iff.1 h
    rw [isTarget_iff, isInvalid_iff, ht]
    exact ⟨Iff.rfl, hi s⟩
  · obtain ⟨-, ht, hi⟩ := new_eq_ok_iff.1 h
    obtain ⟨-, ht', hi'⟩ := new_eq_ok_iff.1 h'
    constructor
    · rintro rfl
      exact ⟨ht.symm.trans ht', fun s => (hi s).symm.trans (hi' s)⟩
    · rintro ⟨htt, hll⟩
      exact ext_of_mem (ht.trans (htt.trans ht'.symm)) fun s => (hi s).trans ((hll s).trans (hi' s).symm)

/-- The configuration of a wait for a running node, which ends when the node breaks or is stopped. -/
def untilRunningOrStopped : Config NodeStatus :=
  ⟨.running, [.terminated, .error], untilRunning.target_ne_unrecognized, by decide, by decide⟩

/-- A document that lists a status twice, a plan that takes its target back, and lists in another order all
come to the same configuration, whose target is not invalid. -/
theorem no_origin_contradicts_itself_of_document :
    let document : Origin NodeStatus :=
      .toml "target = \"RUNNING\"\ninvalid = [\"ERROR\", \"TERMINATED\", \"ERROR\"]" unexplained
    let plan : Origin NodeStatus :=
      .plan [.target .error, .invalid [.error, .terminated], .lookup [], .target .running]
    (document.config? Node = some untilRunningOrStopped ∧
      untilRunningOrStopped.isInvalid untilRunningOrStopped.target = false) ∧
    (plan.config? Node = some untilRunningOrStopped ∧
      ∃ d, plan.stated? = some d ∧ untilRunningOrStopped.target = d.target) ∧
    (new .running [.error, .terminated, .error] = .ok untilRunningOrStopped ∧
      new .running [.terminated, .error] = .ok untilRunningOrStopped ∧
      (∀ s, untilRunningOrStopped.isInvalid s = true ↔ s ∈ [NodeStatus.error, .terminated, .error]) ∧
      ∀ s, s ∈ [NodeStatus.error, .terminated, .error] ↔ s ∈ [NodeStatus.terminated, .error]) := by
  intro document plan
  have hdocument : document.config? Node = some untilRunningOrStopped := by decide +kernel
  have hplan : plan.config? Node = some untilRunningOrStopped := by decide +kernel
  have hnew : new .running [.error, .terminated, .error] = .ok untilRunningOrStopped := rfl
  have hnew' : new .running [.terminated, .error] = .ok untilRunningOrStopped := rfl
  obtain ⟨horigin, -, hmembers, hequal⟩ := no_origin_contradicts_itself (S := Node) (σ := NodeStatus)
  obtain ⟨-, -, hdisjoint, -⟩ := horigin document _ hdocument
  obtain ⟨⟨d, hd, -, ht, -⟩, -⟩ := horigin plan _ hplan
  exact ⟨⟨hdocument, hdisjoint⟩, ⟨hplan, d, hd, ht⟩, hnew, hnew', fun s => (hmembers _ _ _ hnew s).2,
    ((hequal _ _ _ _ _ _ hnew hnew').1 rfl).2⟩

end Config

end StatusWait
