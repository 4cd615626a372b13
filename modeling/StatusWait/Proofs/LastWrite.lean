import Mathlib.Data.List.Induction
import Mathlib.Data.Option.Defs
import StatusWait.Proofs.RoundTrip
import StatusWait.Proofs.Run

/-!
# Fields and their last writes

A snapshot is made with a status and with an identity or without one, and its fields are then set one after the
other, in any order and each as often as one likes. This module says what it is in the end: each field holds
what was written to it last, and the identity is the one that it was made with.

## The model

`Change.field` is the field that a change writes to, and functions such as `Change.name?` give what it writes
there, so that `latest Change.name? cs` is the name that was written last. `SameLast` says that two lists of
changes write the same last; of tags only the members are compared.

## What is proved

* `get_foldl` — a field that each step either writes or leaves holds the last write, in any record.
* `Node.setAll_eq`, `Image.setAll_eq` — so it is with each field of a snapshot.
* `fields_hold_last_writes` — hence equal last writes give equal snapshots and texts, and writes to different
  fields change places.
-/

namespace StatusWait

/-! ### Records in general -/

/-- Two lists with the same members, in any order and with any repetitions. -/
def SameMembers {α : Type} (l l' : List α) : Prop := ∀ a, a ∈ l ↔ a ∈ l'

theorem TextSet.ofList_eq_iff {l l' : List String} : ofList l = ofList l' ↔ SameMembers l l' := by
  constructor
  · intro h t
    rw [← mem_ofList, h, mem_ofList]
  · intro h
    ext t
    rw [mem_ofList, mem_ofList, h t]

theorem TextSet.elim_ofList_congr (t : TextSet) {o o' : Option (List String)}
    (h : Option.Rel SameMembers o o') : o.elim t ofList = o'.elim t ofList := by
  cases h with
  | some hl => exact ofList_eq_iff.2 hl
  | none => rfl

section

variable {R C W V : Type} {set : R → C → R} {get : R → V} {write? : C → Option W} {put : W → V}

/-- A field that each step either writes or leaves alone holds the last write, or else what it held before. -/
theorem get_foldl (h : ∀ r c, get (set r c) = (write? c).elim (get r) put) (r : R) (cs : List C) :
    get (cs.foldl set r) = (latest write? cs).elim (get r) put := by
  -- The last step is the one that counts, so the induction takes steps off the end.
  induction cs using List.reverseRecOn with
  | nil => rfl
  | append_singleton cs c ih =>
    have hlast : get ((cs ++ [c]).foldl set r) = (write? c).elim (get (cs.foldl set r)) put := by
      rw [List.foldl_append]
      exact h _ c
    rw [hlast, ih, latest_concat]
    cases write? c <;> rfl

theorem get_foldl_of_forall_eq (h : ∀ r c, get (set r c) = get r) (r : R) (cs : List C) :
    get (cs.foldl set r) = get r := by
  induction cs generalizing r with
  | nil => rfl
  | cons c cs ih => exact (ih (set r c)).trans (h r c)

/-- Two steps that change places in front of each other may do so anywhere in a list. -/
theorem foldl_swap {a b : C} (h : ∀ r, set (set r a) b = set (set r b) a) (r : R) (before after : List C) :
    (before ++ a :: b :: after).foldl set r = (before ++ b :: a :: after).foldl set r := by
  simp only [List.foldl_append, List.foldl_cons, h]

end

/-! ### Nodes -/

namespace Node

/-- The fields of a node that can be set. -/
inductive Field
  /-- The name. -/
  | name
  /-- The name on the network. -/
  | hostname
  /-- The tags. -/
  | tags
  /-- The status. -/
  | status
deriving DecidableEq, Repr

namespace Change

/-- The field that a change writes to. -/
def field : Change → Field
  | .name _ => .name
  | .hostname _ => .hostname
  | .tags _ => .tags
  | .status _ => .status

/-- The name that a change writes. -/
def name? : Change → Option String
  | .name value => some value
  | _ => none

/-- The name on the network that a change writes. -/
def hostname? : Change → Option String
  | .hostname value => some value
  | _ => none

/-- The tags that a change writes. -/
def tags? : Change → Option (List String)
  | .tags value => some value
  | _ => none

/-- The status that a change writes. -/
def status? : Change → Option NodeStatus
  | .status value => some value
  | _ => none

/-- Two lists of changes whose last writes to each field agree; of tags only the members are compared. -/
structure SameLast (cs cs' : List Change) : Prop where
  /-- The last names agree. -/
  name : latest name? cs = latest name? cs'
  /-- The last names on the network agree. -/
  hostname : latest hostname? cs = latest hostname? cs'
  /-- The last tags have the same members. -/
  tags : Option.Rel SameMembers (latest tags? cs) (latest tags? cs')
  /-- The last statuses agree. -/
  status : latest status? cs = latest status? cs'

end Change

/-- **Each field of a node holds the last write**, or else what it held before; the identity stays. -/
theorem setAll_eq (n : Node) (cs : List Change) : n.setAll cs =
    ⟨n.id, (latest Change.name? cs).elim n.name some, (latest Change.hostname? cs).elim n.hostname some,
      (latest Change.status? cs).elim n.status fun s => s,
      (latest Change.tags? cs).elim n.tags .ofList⟩ := by
  have hid : (n.setAll cs).id = n.id := get_foldl_of_forall_eq (fun n c => by cases c <;> rfl) n cs
  have hname : (n.setAll cs).name = (latest Change.name? cs).elim n.name some :=
    get_foldl (fun n c => by cases c <;> rfl) n cs
  have hhostname : (n.setAll cs).hostname = (latest Change.hostname? cs).elim n.hostname some :=
    get_foldl (fun n c => by cases c <;> rfl) n cs
  have hstatus : (n.setAll cs).status = (latest Change.status? cs).elim n.status fun s => s :=
    get_foldl (fun n c => by cases c <;> rfl) n cs
  have htags : (n.setAll cs).tags = (latest Change.tags? cs).elim n.tags .ofList :=
    get_foldl (fun n c => by cases c <;> rfl) n cs
  rw [← hid, ← hname, ← hhostname, ← hstatus, ← htags]

theorem setAll_congr (n : Node) {cs cs' : List Change} (h : Change.SameLast cs cs') :
    n.setAll cs = n.setAll cs' := by
  rw [setAll_eq, setAll_eq, h.name, h.hostname, TextSet.elim_ofList_congr n.tags h.tags, h.status]

theorem set_comm (n : Node) {a b : Change} (h : a.field ≠ b.field) : (n.set a).set b = (n.set b).set a := by
  cases a with
  | name =>
    cases b with
    | name => exact absurd rfl h
    | hostname | tags | status => rfl
  | hostname =>
    cases b with
    | hostname => exact absurd rfl h
    | name | tags | status => rfl
  | tags =>
    cases b with
    | tags => exact absurd rfl h
    | name | hostname | status => rfl
  | status =>
    cases b with
    | status => exact absurd rfl h
    | name | hostname | tags => rfl

theorem set_tags_eq_iff (n : Node) {l l' : List String} :
    n.set (.tags l) = n.set (.tags l') ↔ SameMembers l l' := by
  rw [← TextSet.ofList_eq_iff]
  exact ⟨fun h => congrArg tags h, fun h => congrArg (Node.mk n.id n.name n.hostname n.status) h⟩

end Node

/-! ### Images -/

namespace Image

/-- The fields of an image that can be set. -/
inductive Field
  /-- The name. -/
  | name
  /-- The description. -/
  | description
  /-- The status. -/
  | status
deriving DecidableEq, Repr

namespace Change

/-- The field that a change writes to. -/
def field : Change → Field
  | .name _ => .name
  | .description _ => .description
  | .status _ => .status

/-- The name that a change writes. -/
def name? : Change → Option String
  | .name value => some value
  | _ => none

/-- The description that a change writes. -/
def description? : Change → Option String
  | .description value => some value
  | _ => none

/-- The status that a change writes. -/
def status? : Change → Option ImageStatus
  | .status value => some value
  | _ => none

/-- Two lists of changes whose last writes to each field agree. -/
structure SameLast (cs cs' : List Change) : Prop where
  /-- The last names agree. -/
  name : latest name? cs = latest name? cs'
  /-- The last descriptions agree. -/
  description : latest description? cs = latest description? cs'
  /-- The last statuses agree. -/
  status : latest status? cs = latest status? cs'

end Change

/-- **Each field of an image holds the last write**, or else what it held before; the identity stays. -/
theorem setAll_eq (i : Image) (cs : List Change) : i.setAll cs =
    ⟨i.id, (latest Change.name? cs).elim i.name some,
      (latest Change.description? cs).elim i.description some,
      (latest Change.status? cs).elim i.status fun s => s⟩ := by
  have hid : (i.setAll cs).id = i.id := get_foldl_of_forall_eq (fun i c => by cases c <;> rfl) i cs
  have hname : (i.setAll cs).name = (latest Change.name? cs).elim i.name some :=
    get_foldl (fun i c => by cases c <;> rfl) i cs
  have hdescription : (i.setAll cs).description =
      (latest Change.description? cs).elim i.description some :=
    get_foldl (fun i c => by cases c <;> rfl) i cs
  have hstatus : (i.setAll cs).status = (latest Change.status? cs).elim i.status fun s => s :=
    get_foldl (fun i c => by cases c <;> rfl) i cs
  rw [← hid, ← hname, ← hdescription, ← hstatus]

theorem setAll_congr (i : Image) {cs cs' : List Change} (h : Change.SameLast cs cs') :
    i.setAll cs = i.setAll cs' := by
  rw [setAll_eq, setAll_eq, h.name, h.description, h.status]

theorem set_comm (i : Image) {a b : Change} (h : a.field ≠ b.field) : (i.set a).set b = (i.set b).set a := by
  cases a with
  | name =>
    cases b with
    | name => exact absurd rfl h
    | description | status => rfl
  | description =>
    cases b with
    | description => exact absurd rfl h
    | name | status => rfl
  | status =>
    cases b with
    | status => exact absurd rfl h
    | name | description => rfl

end Image

/-! ### Snapshots -/

open Snapshot (toText)

/-- **Each field of a snapshot holds its last write.** A node or an image, however it was made, is set in any way.
Its identity stays, and each other field holds what was written to it last, or what it held at first if nothing
was. So two ways to set a snapshot that agree in the last write to each field, where tags count by their members,
give equal snapshots with the same text, and writes to different fields change places anywhere. The tags that were
written are read back in strictly ascending order of code points, each once, and tell two lists apart exactly if
they differ in their members. -/
theorem fields_hold_last_writes :
    (∀ (n : Node) (cs : List Node.Change), n.setAll cs =
      ⟨n.id, (latest Node.Change.name? cs).elim n.name some,
        (latest Node.Change.hostname? cs).elim n.hostname some,
        (latest Node.Change.status? cs).elim n.status fun s => s,
        (latest Node.Change.tags? cs).elim n.tags .ofList⟩) ∧
    (∀ (i : Image) (cs : List Image.Change), i.setAll cs =
      ⟨i.id, (latest Image.Change.name? cs).elim i.name some,
        (latest Image.Change.description? cs).elim i.description some,
        (latest Image.Change.status? cs).elim i.status fun s => s⟩) ∧
    (∀ (n : Node) (cs cs' : List Node.Change), Node.Change.SameLast cs cs' →
      n.setAll cs = n.setAll cs' ∧ toText (n.setAll cs) = toText (n.setAll cs')) ∧
    (∀ (i : Image) (cs cs' : List Image.Change), Image.Change.SameLast cs cs' →
      i.setAll cs = i.setAll cs' ∧ toText (i.setAll cs) = toText (i.setAll cs')) ∧
    (∀ (n : Node) (before after : List Node.Change) (a b : Node.Change), a.field ≠ b.field →
      n.setAll (before ++ a :: b :: after) = n.setAll (before ++ b :: a :: after)) ∧
    (∀ (i : Image) (before after : List Image.Change) (a b : Image.Change), a.field ≠ b.field →
      i.setAll (before ++ a :: b :: after) = i.setAll (before ++ b :: a :: after)) ∧
    ∀ (n : Node) (l : List String),
      (∀ l', n.set (.tags l) = n.set (.tags l') ↔ SameMembers l l') ∧
        ((n.set (.tags l)).tags.elems.map codePoints).Pairwise (· < ·) ∧
        SameMembers (n.set (.tags l)).tags.elems l := by
  refine ⟨Node.setAll_eq, Image.setAll_eq, fun n cs cs' h => ?_, fun i cs cs' h => ?_,
    fun n before after a b h => ?_, fun i before after a b h => ?_,
    fun n l => ⟨fun l' => n.set_tags_eq_iff, ?_, fun t => ?_⟩⟩
  · have heq : n.setAll cs = n.setAll cs' := n.setAll_congr h
    exact ⟨heq, congrArg toText heq⟩
  · have heq : i.setAll cs = i.setAll cs' := i.setAll_congr h
    exact ⟨heq, congrArg toText heq⟩
  · exact foldl_swap (fun n => n.set_comm h) n before after
  · exact foldl_swap (fun i => i.set_comm h) i before after
  · exact (n.set (.tags l)).tags.ascending_codePoints
  · exact TextSet.mem_ofList

/-- Changes to a node that write to two fields twice, with a tag listed twice. -/
def retagging : List Node.Change :=
  [.tags ["old"], .name "a", .status .running, .tags ["z", "b", "z"], .name "web"]

/-- A node on its way gets the last name, status and tags of these changes, and the same from three changes in
another order, where the tags are listed in another order too. -/
theorem fields_hold_last_writes_of_retagged_node :
    let node := Node.new "n1" .pending
    let short : List Node.Change := [.tags ["b", "z"], .name "web", .status .running]
    (Node.Change.SameLast retagging short ∧ node.setAll retagging = node.setAll short ∧
      node.setAll retagging = ⟨some "n1", some "web", none, .running, .ofList ["b", "z"]⟩) ∧
    (Node.Change.field (.name "a") ≠ Node.Change.field (.status .running) ∧
      node.setAll ([.tags []] ++ .name "a" :: .status .running :: [.name "web"]) =
        node.setAll ([.tags []] ++ .status .running :: .name "a" :: [.name "web"])) ∧
    Image.Change.SameLast [.name "a", .name "b"] [.name "b"] ∧
      toText ((Image.unidentified .pending).setAll [.name "a", .name "b"]) =
        toText ((Image.unidentified .pending).setAll [.name "b"]) := by
  intro node short
  obtain ⟨hnode, -, hsame, hsame', hswap, -⟩ := fields_hold_last_writes
  have htags : SameMembers ["z", "b", "z"] ["b", "z"] := by
    intro t
    simp only [List.mem_cons, List.not_mem_nil, or_false]
    tauto
  have hlast : Node.Change.SameLast retagging short := ⟨rfl, rfl, .some htags, rfl⟩
  have hlast' : Image.Change.SameLast [.name "a", .name "b"] [.name "b"] := ⟨rfl, rfl, rfl⟩
  have hfield : Node.Change.field (.name "a") ≠ Node.Change.field (.status .running) := by decide
  exact ⟨⟨hlast, (hsame node _ _ hlast).1, hnode node retagging⟩,
    ⟨hfield, hswap node [.tags []] [.name "web"] _ _ hfield⟩, hlast', (hsame' _ _ _ hlast').2⟩

end StatusWait
