import StatusWait.Session

/-!
# One operation

What one operation of a session can do, said once for everything that is proved about sessions.

## The model

Every operation is for the wait at one place (`Operation.place?`), or for the source. On a store it
acts as `Operation.onStore`, which changes what is kept under one identity at most
(`Operation.changes?`).

## What is proved

* `Store.get?_upsert`, `Store.get?_erase` — a store is a map from identities to snapshots in which
  the last write counts.
* `Session.backing_step` — looks and lookups leave a store as it is.
* `Session.wait?_step_of_ne` — an operation changes no wait but the one that it is for.
-/

namespace StatusWait

variable {S σ : Type}

/-! ### The store -/

namespace Store

variable {id id' : String}

theorem lookup_cons_ite (s : S) (es : List (String × S)) :
    List.lookup id' ((id, s) :: es) = if id' = id then some s else List.lookup id' es := by
  by_cases h : id' = id
  · simp [h]
  · simp [List.lookup_cons, beq_false_of_ne h, h]

theorem lookup_place (s : S) (es : List (String × S)) :
    List.lookup id' (place id s es) = if id' = id then some s else List.lookup id' es := by
  induction es with
  | nil => exact lookup_cons_ite s []
  | cons e es ih =>
    obtain ⟨i, t⟩ := e
    unfold place
    split
    · exact lookup_cons_ite s _
    · split
      · next h =>
        have hi : id = i := h
        rw [lookup_cons_ite, lookup_cons_ite, ← hi]
        split <;> rfl
      · next h =>
        rw [lookup_cons_ite, lookup_cons_ite, ih]
        by_cases hi : id' = i
        · have hne : id' ≠ id := fun h' => h (h'.symm.trans hi)
          rw [if_pos hi, if_neg hne, if_pos hi]
        · rw [if_neg hi, if_neg hi]

theorem get?_erase (store : Store S) :
    (store.erase id).get? id' = if id' = id then none else store.get? id' := by
  obtain ⟨es⟩ := store
  show List.lookup id' (es.filter fun e => e.1 != id) = if id' = id then none else List.lookup id' es
  induction es with
  | nil => simp
  | cons e es ih =>
    obtain ⟨i, t⟩ := e
    rw [lookup_cons_ite, List.filter_cons]
    by_cases hi : i = id
    · have hdrop : (i != id) = false := by simp [hi]
      rw [if_neg (by simp [hdrop]), ih, hi]
      split <;> rfl
    · have hkeep : (i != id) = true := by simp [hi]
      rw [if_pos hkeep, lookup_cons_ite, ih]
      by_cases h : id' = i
      · rw [if_pos h, if_neg (fun h' => hi (h.symm.trans h')), if_pos h]
      · rw [if_neg h, if_neg h]

/-- A snapshot that was put away is found under its own identity, and under any other identity what
was there. -/
theorem get?_upsert [Snapshot S σ] (store : Store S) (s : S) : (store.upsert s).2.get? id =
    if Snapshot.id? s = some id then some s else store.get? id := by
  unfold upsert
  cases h : Snapshot.id? s with
  | none => simp
  | some i => simp [get?, lookup_place, eq_comm]

end Store

/-! ### The source -/

namespace Source

variable {source : Source S} {store : Store S}

theorem lookup_of_store (h : source.backing = .store store) (id : String) :
    source.lookup id = store.lookup id := by
  simp only [lookup, h]

theorem backing_asked (h : source.backing = .store store) :
    source.asked.backing = .store store := by
  simp only [asked, h]

theorem backing_askedAll (h : source.backing = .store store) (ids : List String) :
    (source.askedAll ids).backing = .store store := by
  induction ids generalizing source with
  | nil => exact h
  | cons id ids ih => exact ih (backing_asked h)

end Source

/-! ### What an operation is for -/

namespace Operation

/-- The place of the wait that an operation is for. -/
def place? : Operation S → Option Nat
  | evaluate place _ | state place | config place | consume place => some place
  | upsert _ | remove _ | append _ | refresh _ _ => none

variable [Snapshot S σ]

/-- The identity under which an operation changes what a store keeps. -/
def changes? : Operation S → Option String
  | upsert snapshot => Snapshot.id? snapshot
  | remove id => some id
  | evaluate _ _ | state _ | config _ | consume _ | append _ | refresh _ _ => none

/-- What an operation makes of a store. -/
def onStore : Operation S → Store S → Store S
  | upsert snapshot, store => (store.upsert snapshot).2
  | remove id, store => store.erase id
  | evaluate _ _, store | state _, store | config _, store | consume _, store | append _, store
  | refresh _ _, store => store

variable {op : Operation S} {store store' : Store S} {id : String}

theorem get?_onStore_of_ne (h : op.changes? ≠ some id) :
    (op.onStore store).get? id = store.get? id := by
  cases op with
  | upsert snapshot => exact (Store.get?_upsert store snapshot).trans (if_neg h)
  | remove i =>
    refine (Store.get?_erase store).trans (if_neg fun hi => h ?_)
    rw [hi]
    rfl
  | _ => rfl

/-- What is kept under an identity afterwards depends on what was kept under it alone. -/
theorem get?_onStore_congr (op : Operation S) (h : store'.get? id = store.get? id) :
    (op.onStore store').get? id = (op.onStore store).get? id := by
  cases op with
  | upsert snapshot =>
    show (store'.upsert snapshot).2.get? id = (store.upsert snapshot).2.get? id
    rw [Store.get?_upsert, Store.get?_upsert, h]
  | remove i =>
    show (store'.erase i).get? id = (store.erase i).get? id
    rw [Store.get?_erase, Store.get?_erase, h]
  | _ => exact h

end Operation

/-! ### What an operation does -/

namespace Session

section

variable [DecidableEq σ] [Status σ] {x : Session S σ} {w : Wait S σ} {p q : Nat}

theorem lt_length_of_wait? (h : x.wait? p = some w) : p < x.waits.length := by
  have hp : x.waits[p]? = some (some w) := Option.join_eq_some_iff.1 h
  exact (List.getElem?_eq_some_iff.1 hp).1

theorem wait?_set_self (h : x.wait? p = some w) (source : Source S) (v : Option (Wait S σ)) :
    wait? ⟨source, x.waits.set p v⟩ p = v := by
  simp only [wait?, List.getElem?_set_self (lt_length_of_wait? h), Option.join_some]

theorem wait?_set_of_ne (h : q ≠ p) (source : Source S) (v : Option (Wait S σ)) :
    wait? ⟨source, x.waits.set q v⟩ p = x.wait? p := by
  simp only [wait?, List.getElem?_set_ne h]

end

variable [Snapshot S σ] [DecidableEq σ] [Status σ] {x : Session S σ} {w : Wait S σ} {p : Nat}
  {op : Operation S}

theorem step_evaluate (h : x.wait? p = some w) (input : Input S) :
    x.step (.evaluate p input) = x.evaluate p w input := by
  simp only [step, h]

theorem step_of_no_wait (hp : op.place? = some p) (h : x.wait? p = none) :
    x.step op = x.quiet .noWait := by
  cases op with
  | evaluate q _ | state q | config q | consume q =>
    obtain rfl : q = p := Option.some.inj hp
    simp only [step, h]
  | upsert | remove | append | refresh => cases hp

/-- Over a store, an operation changes what is kept as it does on the store alone. -/
theorem backing_step {store : Store S} (h : x.source.backing = .store store) (op : Operation S) :
    (x.step op).1.source.backing = .store (op.onStore store) := by
  cases op with
  | evaluate q input =>
    cases hw : x.wait? q with
    | none =>
      rw [step_of_no_wait rfl hw]
      exact h
    | some w =>
      rw [step_evaluate hw]
      exact Source.backing_askedAll h _
  | state q | config q | consume q =>
    cases hw : x.wait? q <;>
      · simp only [step, hw]
        exact h
  | upsert | remove =>
    simp only [step, h]
    rfl
  | append =>
    simp only [step, h]
    exact h
  | refresh id layers => exact Source.backing_asked h

/-- An operation changes no wait but the one that it is for. -/
theorem wait?_step_of_ne (h : op.place? ≠ some p) : (x.step op).1.wait? p = x.wait? p := by
  cases op with
  | evaluate q input =>
    have hq : q ≠ p := fun hq => h (congrArg some hq)
    cases hw : x.wait? q with
    | none => rw [step_of_no_wait rfl hw]; rfl
    | some w =>
      rw [step_evaluate hw]
      exact wait?_set_of_ne hq _ _
  | state q | config q =>
    cases hw : x.wait? q <;>
      · simp only [step, hw]
        rfl
  | consume q =>
    have hq : q ≠ p := fun hq => h (congrArg some hq)
    cases hw : x.wait? q with
    | none => rw [step_of_no_wait rfl hw]; rfl
    | some w =>
      simp only [step, hw]
      exact wait?_set_of_ne hq _ _
  | upsert | remove | append =>
    cases hb : x.source.backing <;>
      · simp only [step, hb]
        rfl
  | refresh => rfl

end Session

end StatusWait
