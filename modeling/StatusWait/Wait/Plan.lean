import StatusWait.Wait

/-!
# Plans

A wait put together piece by piece.

## The model

A plan may hold a target, a list of invalid statuses, a configuration and a lookup, in
the form of its layers. Each setting replaces an earlier one of the same name. A wait
comes of a plan with a lookup and with either a configuration or a target, not both;
invalid statuses go with a target only.
-/

namespace StatusWait

/-- A wait in the making. -/
structure Plan (σ : Type) [DecidableEq σ] [Status σ] where
  target : Option σ
  invalid : Option (List σ)
  /-- A configuration in place of the two. -/
  config : Option (Config σ)
  /-- The layers around the lookup. -/
  lookup : Option (List Layer)

/-- One setting of a plan. -/
inductive Setting (σ : Type) [DecidableEq σ] [Status σ]
  | target (target : σ)
  | invalid (invalid : List σ)
  | config (config : Config σ)
  | lookup (layers : List Layer)

/-- Why a plan gives no wait. -/
inductive PlanFault (σ : Type)
  /-- There is no lookup. -/
  | noLookup
  /-- There is a target next to a configuration. -/
  | twoTargets
  /-- There are invalid statuses next to a configuration with this target. -/
  | twoInvalid (target : σ)
  /-- There is neither a target nor a configuration. -/
  | noTarget
  /-- The target and the invalid statuses contradict each other. -/
  | conflict (c : Conflict σ)
deriving DecidableEq, Repr

namespace PlanFault

variable {σ : Type} [Status σ]

/-- The fault as an error. -/
def toError : PlanFault σ → PollError
  | noLookup => .invalidConfig "Refresher is required"
  | twoTargets => .invalidConfig "Target given both directly and through a config"
  | twoInvalid target =>
      .invalidConfig
        ("Invalid statuses given both directly and through a config targeting " ++ Status.wire target)
  | noTarget => .invalidConfig "Target status is required"
  | conflict c => .setup c.toError

end PlanFault

namespace Plan

variable {S σ : Type} [DecidableEq σ] [Status σ]

/-- The plan without any setting. -/
def empty : Plan σ := ⟨none, none, none, none⟩

/-- The plan with one more setting. -/
def set (p : Plan σ) : Setting σ → Plan σ
  | .target target => ⟨some target, p.invalid, p.config, p.lookup⟩
  | .invalid invalid => ⟨p.target, some invalid, p.config, p.lookup⟩
  | .config config => ⟨p.target, p.invalid, some config, p.lookup⟩
  | .lookup layers => ⟨p.target, p.invalid, p.config, some layers⟩

/-- The plan with settings made one after the other. -/
def setAll (p : Plan σ) (settings : List (Setting σ)) : Plan σ := settings.foldl set p

/-- The configuration of a plan. -/
def config? (p : Plan σ) : Except (PlanFault σ) (Config σ) :=
  match p.config, p.target with
  | some _, some _ => .error .twoTargets
  | some config, none => if p.invalid.isSome then .error (.twoInvalid config.target) else .ok config
  | none, some target =>
      (Config.new target (p.invalid.getD Status.defaultInvalid)).mapError .conflict
  | none, none => .error .noTarget

/-- The wait of a plan. A missing lookup is found before any other fault. -/
def build (p : Plan σ) : Except (PlanFault σ) (Wait S σ) :=
  match p.lookup with
  | none => .error .noLookup
  | some layers => p.config?.map (Wait.new · layers)

end Plan

end StatusWait
