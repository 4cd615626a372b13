import Mathlib.Data.List.Induction
import StatusWait.Proofs.Look
import StatusWait.Proofs.Operation
import StatusWait.TextSet

/-!
# The last write counts

A store in memory tells the truth about the writes to it, and nothing else. This module says what it keeps
after any operations of a session.

## The model

`Survives ops id s` says that the snapshot `s` was put into the store under the identity `id` in the course
of the operations `ops`, and that nothing was written under `id` since: it was neither replaced nor
removed. `Store.after` is the store that operations leave, and `Store.Ordered` what every store that can
be reached has in common.

## What is proved

* `Survives.concat_iff` — what one more operation does to the survivors.
* `Store.get?_after` — a store that was empty finds the survivors, and them alone.
* `Store.Ordered.onStore` and `Store.Ordered.after` — every snapshot is kept under its own identity, and
  the identities are in ascending order without repetition.
-/

namespace StatusWait

variable {S σ : Type}

/-! ### Survivors -/

section

variable [Snapshot S σ]

/-- The snapshot `s` was put in under the identity `id`, and nothing was written under `id` since. -/
def Survives (ops : List (Operation S)) (id : String) (s : S) : Prop :=
  ∃ earlier later, ops = earlier ++ .upsert s :: later ∧ Snapshot.id? s = some id ∧
    ∀ op ∈ later, op.changes? ≠ some id

namespace Survives

variable {ops : List (Operation S)} {op : Operation S} {id : String} {s : S}

theorem not_nil : ¬ Survives [] id s := by
  rintro ⟨earlier, later, h, -⟩
  exact absurd h (by simp)

theorem identity (h : Survives ops id s) : Snapshot.id? s = some id := by
  obtain ⟨-, -, -, hid, -⟩ := h
  exact hid

theorem concat_upsert (h : Snapshot.id? s = some id) : Survives (ops ++ [.upsert s]) id s :=
  ⟨ops, [], rfl, h, by simp⟩

theorem concat (h : Survives ops id s) (hop : op.changes? ≠ some id) : Survives (ops ++ [op]) id s := by
  obtain ⟨earlier, later, rfl, hid, hlater⟩ := h
  refine ⟨earlier, later ++ [op], by simp, hid, ?_⟩
  intro op' hop'
  rcases List.mem_append.1 hop' with hop' | hop'
  · exact hlater op' hop'
  · rw [List.mem_singleton.1 hop']
    exact hop

/-- A survivor has just been put in, or it was one before and nothing was written under its identity. -/
theorem concat_iff : Survives (ops ++ [op]) id s ↔
    (op = .upsert s ∧ Snapshot.id? s = some id) ∨ (op.changes? ≠ some id ∧ Survives ops id s) := by
  constructor
  · rintro ⟨earlier, later, h, hid, hlater⟩
    -- The last operation is the upsert itself, or the last of those behind it.
    rcases List.eq_nil_or_concat later with rfl | ⟨later, op', rfl⟩
    · obtain ⟨-, hop⟩ := List.append_inj' h rfl
      exact .inl ⟨List.head_eq_of_cons_eq hop, hid⟩
    · rw [List.concat_eq_append, ← List.cons_append, ← List.append_assoc] at h
      obtain ⟨rfl, hop⟩ := List.append_inj' h rfl
      obtain rfl : op = op' := List.head_eq_of_cons_eq hop
      exact .inr ⟨hlater op (by simp), earlier, later, rfl, hid, fun op' hop' => hlater op' (by simp [hop'])⟩
  · rintro (⟨rfl, hid⟩ | ⟨hop, h⟩)
    · exact concat_upsert hid
    · exact h.concat hop

end Survives

end

/-! ### One operation on a store -/

namespace Store

variable {id : String} {s : S} {store : Store S}

theorem mem_ids_iff : id ∈ store.ids ↔ ∃ s, store.get? id = some s := by
  obtain ⟨es⟩ := store
  show id ∈ es.map Prod.fst ↔ ∃ s, List.lookup id es = some s
  induction es with
  | nil => simp
  | cons e es ih =>
    obtain ⟨i, t⟩ := e
    rw [List.map_cons, List.mem_cons, lookup_cons_ite, ih]
    by_cases h : id = i <;> simp [h]

theorem map_fst_place (id : String) (s : S) (es : List (String × S)) :
    (place id s es).map Prod.fst = insertAscending id (es.map Prod.fst) := by
  induction es with
  | nil => rfl
  | cons e es ih =>
    obtain ⟨i, t⟩ := e
    rw [List.map_cons, place, insertAscending]
    split
    · rfl
    · split
      · next h =>
        have hi : id = i := h
        rw [List.map_cons, hi]
      · rw [List.map_cons, ih]

theorem mem_place {e : String × S} {es : List (String × S)} (h : e ∈ place id s es) :
    e = (id, s) ∨ e ∈ es := by
  induction es with
  | nil => exact .inl (List.mem_singleton.1 h)
  | cons e' es ih =>
    rw [place] at h
    split at h
    · exact List.mem_cons.1 h
    · split at h
      · rcases List.mem_cons.1 h with h | h
        · exact .inl h
        · exact .inr (List.mem_cons_of_mem e' h)
      · rcases List.mem_cons.1 h with h | h
        · exact .inr (h ▸ List.mem_cons_self ..)
        · exact (ih h).imp_right (List.mem_cons_of_mem e')

variable [Snapshot S σ]

/-- Every snapshot is kept under its own identity, and the identities ascend in the order of code
points. -/
structure Ordered (store : Store S) : Prop where
  /-- Every snapshot is kept under its own identity. -/
  keyed : ∀ e ∈ store.entries, Snapshot.id? e.2 = some e.1
  /-- The identities ascend. -/
  ascending : store.ids.Pairwise (· < ·)

namespace Ordered

theorem empty : (empty : Store S).Ordered := ⟨fun _ h => (List.not_mem_nil h).elim, .nil⟩

theorem upsert (h : store.Ordered) (s : S) : (store.upsert s).2.Ordered := by
  unfold Store.upsert
  cases hid : Snapshot.id? s with
  | none => exact h
  | some id =>
    refine ⟨fun e he => ?_, ?_⟩
    · rcases mem_place he with rfl | he
      · exact hid
      · exact h.keyed e he
    · show ((place id s store.entries).map Prod.fst).Pairwise (· < ·)
      rw [map_fst_place]
      exact insertAscending_pairwise h.ascending

theorem erase (h : store.Ordered) (id : String) : (store.erase id).Ordered := by
  have hsub : (store.erase id).entries.Sublist store.entries := List.filter_sublist
  exact ⟨fun e he => h.keyed e (hsub.subset he), h.ascending.sublist (hsub.map Prod.fst)⟩

/-- **Every operation leaves a store in order.** -/
theorem onStore (h : store.Ordered) (op : Operation S) : (op.onStore store).Ordered := by
  cases op with
  | upsert s => exact h.upsert s
  | remove id => exact h.erase id
  | evaluate | state | config | consume | append | refresh => exact h

end Ordered

/-- What an operation leaves under an identity was put there by it, or was there before and the operation
wrote nothing under this identity. -/
theorem get?_onStore_eq_some_iff {op : Operation S} : (op.onStore store).get? id = some s ↔
    (op = .upsert s ∧ Snapshot.id? s = some id) ∨ (op.changes? ≠ some id ∧ store.get? id = some s) := by
  by_cases hop : op.changes? = some id
  · cases op with
    | upsert t =>
      have hput : (store.upsert t).2.get? id = some t := (get?_upsert store t).trans (if_pos hop)
      show (store.upsert t).2.get? id = some s ↔ _
      rw [hput]
      constructor
      · intro h
        obtain rfl := Option.some.inj h
        exact .inl ⟨rfl, hop⟩
      · rintro (⟨h, -⟩ | ⟨h, -⟩)
        · injection h with h
          rw [h]
        · exact absurd hop h
    | remove i =>
      obtain rfl : i = id := Option.some.inj hop
      have hgone : (store.erase i).get? i = none := (get?_erase store).trans (if_pos rfl)
      show (store.erase i).get? i = some s ↔ _
      rw [hgone]
      simp [Operation.changes?]
    | evaluate | state | config | consume | append | refresh => cases hop
  · rw [Operation.get?_onStore_of_ne hop]
    constructor
    · exact fun h => .inr ⟨hop, h⟩
    · rintro (⟨rfl, h⟩ | ⟨-, h⟩)
      · exact absurd h hop
      · exact h

/-! ### Runs -/

/-- The store that operations leave. -/
def after (store : Store S) (ops : List (Operation S)) : Store S :=
  ops.foldl (fun store op => op.onStore store) store

theorem after_concat (store : Store S) (ops : List (Operation S)) (op : Operation S) :
    store.after (ops ++ [op]) = op.onStore (store.after ops) := by
  rw [after, List.foldl_append]
  rfl

theorem Ordered.after (h : store.Ordered) (ops : List (Operation S)) : (store.after ops).Ordered := by
  induction ops using List.reverseRecOn with
  | nil => exact h
  | append_singleton ops op ih =>
    rw [after_concat]
    exact ih.onStore op

/-- **A store that was empty finds the survivors, and them alone.** -/
theorem get?_after (ops : List (Operation S)) :
    ((empty : Store S).after ops).get? id = some s ↔ Survives ops id s := by
  induction ops using List.reverseRecOn generalizing s with
  | nil =>
    constructor
    · intro h
      cases h
    · intro h
      exact absurd h Survives.not_nil
  | append_singleton ops op ih => rw [after_concat, get?_onStore_eq_some_iff, Survives.concat_iff, ih]

theorem get?_after_eq_none_iff {ops : List (Operation S)} :
    ((empty : Store S).after ops).get? id = none ↔ ∀ s, ¬ Survives ops id s := by
  rw [Option.eq_none_iff_forall_ne_some]
  exact forall_congr' fun s => not_congr (get?_after ops)

end Store

namespace Session

variable [Snapshot S σ] [DecidableEq σ] [Status σ] {x : Session S σ} {store : Store S} {id : String}
  {found : Option S}

/-- Over a store, operations change what is kept as they do on the store alone. -/
theorem backing_run (h : x.source.backing = .store store) (ops : List (Operation S)) :
    (x.run ops).1.source.backing = .store (store.after ops) := by
  induction ops generalizing x store with
  | nil => exact h
  | cons op ops ih => exact ih (backing_step h op)

/-! ### What callers are told -/

/-- A lookup of an identity, through any layers, and its removal both answer with this snapshot, or both
answer that there is none. -/
def Answers (x : Session S σ) (id : String) (found : Option S) : Prop :=
  (∀ layers, (x.step (.refresh id layers)).2.result =
    .refreshed (found.elim .gone .found) (x.source.calls + 1)) ∧
  ∃ ids, (x.step (.remove id)).2.result = .removed found ids

theorem answers_iff (h : x.source.backing = .store store) :
    x.Answers id found ↔ found = store.get? id := by
  have hremove : (x.step (.remove id)).2.result = .removed (store.get? id) (store.erase id).ids := by
    simp only [step, h]
    rfl
  have hlookup : x.source.lookup id = (store.get? id).elim .gone .found := by
    rw [Source.lookup_of_store h, Store.lookup]
    cases store.get? id <;> rfl
  constructor
  · rintro ⟨-, ids, hids⟩
    rw [hremove] at hids
    injection hids with hfound
    exact hfound.symm
  · rintro rfl
    refine ⟨fun layers => ?_, _, hremove⟩
    have hrefresh : (x.step (.refresh id layers)).2.result =
        .refreshed (Layer.wrap layers x.source.lookup id : Reply S σ).answer (x.source.calls + 1) := rfl
    rw [hrefresh, Layer.answer_wrap, hlookup]

/-- To put a snapshot in tells whether it has an identity, and lists the identities afterwards. Without an
identity it changes nothing. -/
theorem step_upsert (h : x.source.backing = .store store) (s : S) :
    (x.step (.upsert s)).2.result =
        .upserted (Snapshot.id? s).isSome ((Operation.upsert s).onStore store).ids ∧
      (Snapshot.id? s = none → (x.step (.upsert s)).1 = x) := by
  obtain ⟨⟨backing, calls⟩, waits⟩ := x
  obtain rfl : backing = .store store := h
  cases hid : Snapshot.id? s with
  | none => simp [step, quiet, Operation.onStore, Store.upsert, hid]
  | some id => simp [step, quiet, Operation.onStore, Store.upsert, hid]

/-- **The last write counts.** A store is empty at the start, and any operations are done, those of waits
among them. Then each snapshot in the store is kept under its own identity; a lookup of an identity and its
removal answer with the snapshot that survives under it, and that there is none where none survives; to
put a snapshot in tells whether it has an identity, and changes nothing if it has none; an operation that
writes nothing under an identity changes no answer about it; and the identities are listed in the order of
code points, without repetition, exactly those under which a lookup finds a snapshot. -/
theorem last_write_counts (waits : List (Option (Wait S σ))) (ops : List (Operation S)) :
    let x : Session S σ := ⟨.ofStore, waits⟩
    let y := (x.run ops).1
    ∃ store : Store S, y.source.backing = .store store ∧
      (∀ e ∈ store.entries, Snapshot.id? e.2 = some e.1) ∧
      (∀ id, (∀ s, Survives ops id s → y.Answers id (some s)) ∧
        ((∀ s, ¬ Survives ops id s) → y.Answers id none)) ∧
      (∀ s, (∃ store' : Store S, (y.step (.upsert s)).1.source.backing = .store store' ∧
          (y.step (.upsert s)).2.result = .upserted (Snapshot.id? s).isSome store'.ids) ∧
        (Snapshot.id? s = none → (y.step (.upsert s)).1 = y)) ∧
      (∀ op id found, op.changes? ≠ some id → y.Answers id found → (y.step op).1.Answers id found) ∧
      store.ids.Pairwise (· < ·) ∧
      ∀ id, id ∈ store.ids ↔ ∃ s, y.Answers id (some s) := by
  intro x y
  have hx : x.source.backing = .store .empty := rfl
  have hy : y.source.backing = .store (Store.empty.after ops) := backing_run hx ops
  have hordered : ((Store.empty : Store S).after ops).Ordered := Store.Ordered.empty.after ops
  refine ⟨_, hy, hordered.keyed, fun id => ⟨fun s hs => ?_, fun hnone => ?_⟩, fun s => ?_,
    fun op id found hop hfound => ?_, hordered.ascending, fun id => ?_⟩
  · exact (answers_iff hy).2 (Store.get?_after ops |>.2 hs).symm
  · exact (answers_iff hy).2 (Store.get?_after_eq_none_iff.2 hnone).symm
  · exact ⟨⟨_, backing_step hy _, (step_upsert hy s).1⟩, (step_upsert hy s).2⟩
  · rw [answers_iff (backing_step hy op), Operation.get?_onStore_of_ne hop]
    exact (answers_iff hy).1 hfound
  · rw [Store.mem_ids_iff]
    refine exists_congr fun s => ?_
    rw [answers_iff hy, eq_comm]

/-- Of three nodes, one under the empty identity, the first is seen twice and the second is removed; a wait
looks at the first in between. The first is found as it was seen last, the second is not found, and a look
at the first leaves the answer about the third as it is. -/
theorem last_write_counts_of_three :
    let waits : List (Option (Wait Node NodeStatus)) := [some (.new .untilRunning [])]
    let ops : List (Operation Node) :=
      [.upsert (.new "n1" .pending), .upsert (.new "n2" .running), .upsert (.new "" .error),
        .evaluate 0 (.given (some (.new "n1" .pending))), .upsert (.unidentified .running),
        .upsert (.new "n1" .suspended), .remove "n2"]
    let x : Session Node NodeStatus := ⟨.ofStore, waits⟩
    let y := (x.run ops).1
    Survives ops "n1" (.new "n1" .suspended) ∧ y.Answers "n1" (some (.new "n1" .suspended)) ∧
      (∀ s, ¬ Survives ops "n2" s) ∧ y.Answers "n2" none ∧
      (y.step (.evaluate 0 .lastSeen)).1.Answers "" (some (.new "" .error)) ∧
      (y.step (.upsert (.unidentified .running))).1 = y := by
  intro waits ops x y
  obtain ⟨store, -, -, hsurvivors, hput, hframe, -⟩ := last_write_counts waits ops
  have hn1 : Survives ops "n1" (.new "n1" .suspended) :=
    ⟨ops.take 5, [.remove "n2"], rfl, rfl, by decide⟩
  have hempty : Survives ops "" (.new "" .error) := ⟨ops.take 2, ops.drop 3, rfl, rfl, by decide⟩
  have hn2 : ∀ s, ¬ Survives ops "n2" s := Store.get?_after_eq_none_iff.1 (by decide)
  exact ⟨hn1, (hsurvivors "n1").1 _ hn1, hn2, (hsurvivors "n2").2 hn2,
    hframe (.evaluate 0 .lastSeen) "" _ (by decide) ((hsurvivors "").1 _ hempty), (hput _).2 rfl⟩

end Session

end StatusWait
