import StatusWait.Proofs.History
import StatusWait.Proofs.Operation

/-!
# Independence of waits

Several waits look things up in one store, which is written to in between. This module says that a
wait notices nothing of the others, and of the writes only those to identities that it was given.

## The model

`identitiesAt p` lists the identities that operations hand to the wait at place `p`. An operation
`Concerns` that wait if it is for it, or writes to one of these identities. `Session.responsesAt p` are
the responses to the operations that are for it, and `Response.uncounted` leaves out of a response how
often the store has been asked, which is the one thing that all waits have in common.

## What is proved

A wait remembers and looks up no identity but those it was given (`Memory.Within.evaluate`). So two
sessions that agree on one wait, and on what their stores keep under its identities, go on to agree
(`Session.Agrees.step`), and it makes no difference to this if one of them has an operation more that
does not concern the wait (`Session.Agrees.step_left`). By induction the operations that do not concern
a wait can all be left out (`Session.responsesAt_filter_concerns`).
-/

namespace StatusWait

variable {S σ : Type}

/-! ### What a look depends on -/

section

variable [Snapshot S σ] {id : String} {lookup lookup' : String → Answer S}

theorem Layer.wrap_congr (layers : List Layer) (h : lookup' id = lookup id) :
    (wrap layers lookup' id : Reply S σ) = wrap layers lookup id := by
  induction layers with
  | nil => rw [wrap_nil, wrap_nil, h]
  | cons layer layers ih =>
    show around layer (wrap layers lookup') id = around layer (wrap layers lookup) id
    cases layer with
    | tracing => simp only [around, ih]
    | shared | client => exact ih

variable [DecidableEq σ] [Status σ]

theorem Config.evaluate_congr (c : Config σ) {m : Memory S} {input : Option S}
    {lookup lookup' : String → Reply S σ}
    (h : ∀ id s, subject? m input = some (id, s) → lookup' id = lookup id) :
    c.evaluate m input lookup' = c.evaluate m input lookup := by
  cases hs : subject? m input with
  | none => rw [evaluate_absent hs, evaluate_absent hs]
  | some p =>
    obtain ⟨id, s⟩ := p
    by_cases ht : c.standing (Snapshot.status s) = .transitional
    · rw [evaluate_transitional hs ht, evaluate_transitional hs ht, h id s hs]
    · rw [evaluate_decided hs ht, evaluate_decided hs ht]

end

/-! ### The identities of a wait -/

/-- What is remembered has one of these identities. -/
def Memory.Within [Snapshot S σ] (ids : List String) (m : Memory S) : Prop :=
  ∀ s, m.lastSeen = some s → ∃ id ∈ ids, Snapshot.id? s = some id

namespace Memory.Within

variable [Snapshot S σ] {ids : List String} {m : Memory S} {input : Input S} {id : String} {s : S}

theorem of_lastSeen_none (h : m.lastSeen = none) : m.Within ids := by
  intro s hs
  rw [h] at hs
  cases hs

theorem subject? (h : m.Within ids) (hi : ∀ id, input.identity? = some id → id ∈ ids)
    (hs : StatusWait.subject? m (input.resolve m) = some (id, s)) : id ∈ ids := by
  have hmem {i : String} (hm : m.lastSeen.bind Snapshot.id? = some i) : i ∈ ids := by
    obtain ⟨t, ht, hid⟩ := Option.bind_eq_some_iff.1 hm
    obtain ⟨j, hj, hid'⟩ := h t ht
    rw [hid] at hid'
    exact Option.some.inj hid' ▸ hj
  have hid : ((input.resolve m).bind Snapshot.id? <|> m.lastSeen.bind Snapshot.id?) = some id := by
    rw [← subject?_map_fst, hs]
    rfl
  rw [Option.orElse_eq_orElse, Option.orElse_eq_or, Option.or_eq_some_iff] at hid
  rcases hid with hid | ⟨-, hid⟩
  · cases input with
    | given t => exact hi id hid
    | lastSeen => exact hmem hid
  · exact hmem hid

variable [DecidableEq σ] [Status σ]

/-- **A look remembers no identity but those that were given.** -/
theorem evaluate (h : m.Within ids) (hi : ∀ id, input.identity? = some id → id ∈ ids) (c : Config σ)
    (lookup : String → Reply S σ) :
    (c.evaluate m (input.resolve m) lookup).memory.Within ids := by
  cases hs : StatusWait.subject? m (input.resolve m) with
  | none =>
    have hm : (c.evaluate m (input.resolve m) lookup).memory = m.looked := by
      rw [Config.evaluate_absent hs]
      split <;> rfl
    rw [hm]
    exact h
  | some p =>
    obtain ⟨id, s⟩ := p
    have hid : id ∈ ids := h.subject? hi hs
    by_cases ht : c.standing (Snapshot.status s) = .transitional
    · rw [Config.evaluate_transitional hs ht]
      intro t hlast
      exact ⟨id, hid, Config.id?_of_lastSeen_weigh (id?_of_subject? hs) hlast⟩
    · rw [Config.evaluate_decided hs ht]
      intro t hlast
      obtain rfl : s = t := Option.some.inj hlast
      exact ⟨id, hid, id?_of_subject? hs⟩

end Memory.Within

/-! ### The operations that concern a wait -/

section

variable [DecidableEq σ] [Status σ]

/-- An answer without the count of the source, which is set to zero. -/
def Result.uncounted : Result S σ → Result S σ
  | evaluated decision memory _ => evaluated decision memory 0
  | state memory _ => state memory 0
  | refreshed answer _ => refreshed answer 0
  | result => result

/-- A response without the count of the source. -/
def Response.uncounted (r : Response S σ) : Response S σ := ⟨r.result.uncounted, r.log, r.asked⟩

end

section

variable [Snapshot S σ]

namespace Operation

/-- The identity that an operation hands to the wait at a place. -/
def handed? (p : Nat) : Operation S → Option String
  | evaluate place input => if place = p then input.identity? else none
  | state _ | config _ | consume _ | upsert _ | remove _ | append _ | refresh _ _ => none

/-- The operation is for the wait at a place, or writes to one of its identities. -/
def Concerns (p : Nat) (ids : List String) (op : Operation S) : Prop :=
  op.place? = some p ∨ ∃ id ∈ ids, op.changes? = some id

instance (p : Nat) (ids : List String) (op : Operation S) : Decidable (op.Concerns p ids) :=
  inferInstanceAs (Decidable (_ ∨ _))

end Operation

/-- The identities that operations hand to the wait at a place. -/
def identitiesAt (p : Nat) (ops : List (Operation S)) : List String :=
  ops.filterMap (Operation.handed? p)

variable [DecidableEq σ] [Status σ]

namespace Session

/-- The responses to the operations that are for the wait at a place. -/
def responsesAt (x : Session S σ) (p : Nat) (ops : List (Operation S)) : List (Response S σ) :=
  ((ops.zip (x.run ops).2).filter fun r => r.1.place? = some p).map Prod.snd

variable {x y : Session S σ} {p : Nat} {ids : List String} {op : Operation S}

theorem responsesAt_cons_of_eq (h : op.place? = some p) (ops : List (Operation S)) :
    x.responsesAt p (op :: ops) = (x.step op).2 :: (x.step op).1.responsesAt p ops := by
  simp [responsesAt, run, h]

theorem responsesAt_cons_of_ne (h : op.place? ≠ some p) (ops : List (Operation S)) :
    x.responsesAt p (op :: ops) = (x.step op).1.responsesAt p ops := by
  simp [responsesAt, run, h]

/-- Two sessions over stores that a wait with these identities cannot tell apart. -/
structure Agrees (p : Nat) (ids : List String) (x y : Session S σ) : Prop where
  /-- The wait is the same in both. -/
  wait : y.wait? p = x.wait? p
  /-- It remembers one of its identities. -/
  within : ∀ w, x.wait? p = some w → w.memory.Within ids
  /-- The stores keep the same under each of them. -/
  stores : ∃ store store', x.source.backing = .store store ∧ y.source.backing = .store store' ∧
    ∀ id ∈ ids, store'.get? id = store.get? id

namespace Agrees

theorem lookup (h : Agrees p ids x y) {id : String} (hid : id ∈ ids) :
    y.source.lookup id = x.source.lookup id := by
  obtain ⟨store, store', hx, hy, hget⟩ := h.stores
  rw [Source.lookup_of_store hx, Source.lookup_of_store hy, Store.lookup, Store.lookup, hget id hid]

/-- An operation that does not concern the wait may be left out on the other side. -/
theorem step_left (h : Agrees p ids x y) (hop : ¬ op.Concerns p ids) :
    Agrees p ids (x.step op).1 y := by
  obtain ⟨hp, hids⟩ := not_or.1 hop
  obtain ⟨store, store', hx, hy, hget⟩ := h.stores
  have hwait : (x.step op).1.wait? p = x.wait? p := wait?_step_of_ne hp
  refine ⟨by rw [hwait, h.wait], fun w hw => h.within w (hwait ▸ hw), op.onStore store, store',
    backing_step hx op, hy, fun id hid => ?_⟩
  rw [Operation.get?_onStore_of_ne fun hc => hids ⟨id, hid, hc⟩, hget id hid]

theorem turn (h : Agrees p ids x y) {w : Wait S σ} (hw : x.wait? p = some w) {input : Input S}
    (hi : ∀ id, input.identity? = some id → id ∈ ids) :
    w.evaluate (input.resolve w.memory) y.source.lookup =
      w.evaluate (input.resolve w.memory) x.source.lookup := by
  refine w.config.evaluate_congr fun id s hs => Layer.wrap_congr w.layers (h.lookup ?_)
  exact (h.within w hw).subject? hi hs

theorem step_at (h : Agrees p ids x y) (hp : op.place? = some p)
    (hi : ∀ id, op.handed? p = some id → id ∈ ids) :
    (y.step op).2.uncounted = (x.step op).2.uncounted ∧
      (y.step op).1.wait? p = (x.step op).1.wait? p ∧
      ∀ w, (x.step op).1.wait? p = some w → w.memory.Within ids := by
  cases hw : x.wait? p with
  | none =>
    rw [step_of_no_wait hp hw, step_of_no_wait hp (h.wait.trans hw)]
    exact ⟨rfl, h.wait, h.within⟩
  | some w =>
    have hw' : y.wait? p = some w := h.wait.trans hw
    cases op with
    | evaluate q input =>
      obtain rfl : q = p := Option.some.inj hp
      have hinput : ∀ id, input.identity? = some id → id ∈ ids := by
        simpa [Operation.handed?] using hi
      have hturn := h.turn hw hinput
      rw [step_evaluate hw, step_evaluate hw']
      simp only [evaluate, hturn, wait?_set_self hw, wait?_set_self hw']
      refine ⟨rfl, trivial, fun v hv => ?_⟩
      obtain rfl := Option.some.inj hv
      exact (h.within w hw).evaluate hinput w.config _
    | state q | config q =>
      obtain rfl : q = p := Option.some.inj hp
      simp only [step, hw, hw']
      exact ⟨rfl, h.wait, h.within⟩
    | consume q =>
      obtain rfl : q = p := Option.some.inj hp
      simp only [step, hw, hw']
      refine ⟨rfl, ?_, fun v hv => ?_⟩
      · exact (wait?_set_self hw' _ _).trans (wait?_set_self hw _ _).symm
      · cases (wait?_set_self hw _ _).symm.trans hv
    | upsert | remove | append | refresh => cases hp

/-- **An operation keeps two sessions in agreement.** -/
theorem step (h : Agrees p ids x y) (hi : ∀ id, op.handed? p = some id → id ∈ ids) :
    Agrees p ids (x.step op).1 (y.step op).1 := by
  obtain ⟨store, store', hx, hy, hget⟩ := h.stores
  have hstores : ∃ store store', (x.step op).1.source.backing = .store store ∧
      (y.step op).1.source.backing = .store store' ∧ ∀ id ∈ ids, store'.get? id = store.get? id :=
    ⟨_, _, backing_step hx op, backing_step hy op, fun id hid =>
      Operation.get?_onStore_congr op (hget id hid)⟩
  by_cases hp : op.place? = some p
  · obtain ⟨-, hwait, hwithin⟩ := h.step_at hp hi
    exact ⟨hwait, hwithin, hstores⟩
  · have hwait : (x.step op).1.wait? p = x.wait? p := wait?_step_of_ne hp
    have hwait' : (y.step op).1.wait? p = y.wait? p := wait?_step_of_ne hp
    refine ⟨by rw [hwait, hwait', h.wait], fun w hw => h.within w (hwait ▸ hw), hstores⟩

/-- Sessions in agreement give the wait the same responses, although one of them has all operations
and the other those alone that concern it. -/
theorem run_filter (ops : List (Operation S)) (h : Agrees p ids x y)
    (hi : ∀ op ∈ ops, ∀ id, op.handed? p = some id → id ∈ ids) :
    (y.responsesAt p (ops.filter fun op => op.Concerns p ids)).map Response.uncounted =
        (x.responsesAt p ops).map Response.uncounted ∧
      (y.run (ops.filter fun op => op.Concerns p ids)).1.wait? p = (x.run ops).1.wait? p := by
  induction ops generalizing x y with
  | nil => exact ⟨rfl, h.wait⟩
  | cons op ops ih =>
    have hop := hi op (List.mem_cons_self ..)
    have hops := fun op' hop' => hi op' (List.mem_cons_of_mem op hop')
    by_cases hc : op.Concerns p ids
    · rw [List.filter_cons_of_pos (by simpa using hc)]
      obtain ⟨hresponses, hwait⟩ := ih (h.step hop) hops
      refine ⟨?_, hwait⟩
      by_cases hp : op.place? = some p
      · rw [responsesAt_cons_of_eq hp, responsesAt_cons_of_eq hp, List.map_cons, List.map_cons,
          hresponses, (h.step_at hp hop).1]
      · rw [responsesAt_cons_of_ne hp, responsesAt_cons_of_ne hp, hresponses]
    · rw [List.filter_cons_of_neg (by simpa using hc),
        responsesAt_cons_of_ne fun hp => hc (.inl hp)]
      exact ih (h.step_left hc) hops

end Agrees

/-- **Waits do not interfere.** Any number of waits share a store, and looks of all of them are mixed
with writes to the store and lookups without a wait. For a wait that remembers nothing at the start,
all operations that do not concern it may be left out, that is, all that are for other waits, all
lookups without a wait, and all writes but those to identities that the wait itself is given: its own
operations get the same responses, the count of the source aside, and it ends in the same state. -/
theorem responsesAt_filter_concerns (x : Session S σ) (p : Nat) (ops : List (Operation S))
    {store : Store S} (hstore : x.source.backing = .store store)
    (hnew : ∀ w, x.wait? p = some w → w.memory.lastSeen = none) :
    let kept := ops.filter fun op => op.Concerns p (identitiesAt p ops)
    (x.responsesAt p kept).map Response.uncounted =
        (x.responsesAt p ops).map Response.uncounted ∧
      (x.run kept).1.wait? p = (x.run ops).1.wait? p := by
  have h : Agrees p (identitiesAt p ops) x x :=
    ⟨rfl, fun w hw => .of_lastSeen_none (hnew w hw), store, store, hstore, hstore, fun _ _ => rfl⟩
  exact h.run_filter ops fun op hop id hid => List.mem_filterMap.2 ⟨op, hop, hid⟩

/-- Two waits for two nodes share an empty store. What the first one notices of nine operations are the
four that write about its node or are for it: the node is seen on its way, and then up. -/
theorem responsesAt_first_of_two :
    let x : Session Node NodeStatus :=
      ⟨.ofStore, [some (.new Config.untilRunning []), some (.new Config.untilRunning [.tracing])]⟩
    let ops : List (Operation Node) :=
      [.upsert (.new "n1" .suspended), .evaluate 0 (.given (some (.new "n1" .pending))),
        .upsert (.new "n2" .error), .evaluate 1 (.given (some (.new "n2" .pending))),
        .upsert (.unidentified .running), .refresh "n1" [.tracing], .upsert (.new "n1" .running),
        .remove "n2", .evaluate 0 .lastSeen]
    let kept : List (Operation Node) :=
      [.upsert (.new "n1" .suspended), .evaluate 0 (.given (some (.new "n1" .pending))),
        .upsert (.new "n1" .running), .evaluate 0 .lastSeen]
    x.source.backing = .store .empty ∧ (∀ w, x.wait? 0 = some w → w.memory.lastSeen = none) ∧
      (x.responsesAt 0 kept).map Response.uncounted =
        (x.responsesAt 0 ops).map Response.uncounted ∧
      (x.run kept).1.wait? 0 = (x.run ops).1.wait? 0 := by
  intro x ops kept
  have hstore : x.source.backing = .store .empty := rfl
  have hnew : ∀ w, x.wait? 0 = some w → w.memory.lastSeen = none := by
    intro w hw
    obtain rfl := Option.some.inj hw
    rfl
  have hkept : ops.filter (fun op => op.Concerns 0 (identitiesAt 0 ops)) = kept := by decide
  obtain ⟨hresponses, hwait⟩ := responsesAt_filter_concerns x 0 ops hstore hnew
  rw [hkept] at hresponses hwait
  exact ⟨hstore, hnew, hresponses, hwait⟩

end Session

end

end StatusWait
