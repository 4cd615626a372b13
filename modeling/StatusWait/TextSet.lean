/-!
# Sets of texts

A set of texts kept as a list that ascends strictly in the order of code points, so
that equal sets are equal lists.
-/

namespace StatusWait

/-- Put a text at its place in an ascending list, unless it is there already. -/
def insertAscending (s : String) : List String → List String
  | [] => [s]
  | t :: ts => if s < t then s :: t :: ts else if s = t then t :: ts else t :: insertAscending s ts

theorem mem_insertAscending {s t : String} : ∀ {l : List String},
    t ∈ insertAscending s l ↔ t = s ∨ t ∈ l
  | [] => by simp [insertAscending]
  | u :: us => by
    unfold insertAscending
    split
    · simp
    · split
      · next h => subst h; simp
      · rw [List.mem_cons, mem_insertAscending (l := us), List.mem_cons]
        exact or_left_comm

theorem insertAscending_pairwise {s : String} : ∀ {l : List String},
    l.Pairwise (· < ·) → (insertAscending s l).Pairwise (· < ·)
  | [], _ => by simp [insertAscending]
  | t :: ts, h => by
    have ht : ∀ u ∈ ts, t < u := (List.pairwise_cons.1 h).1
    unfold insertAscending
    split
    · next hs =>
      refine List.pairwise_cons.2 ⟨fun u hu => ?_, h⟩
      cases List.mem_cons.1 hu with
      | inl e => exact e ▸ hs
      | inr hu => exact String.lt_trans hs (ht u hu)
    · next hs =>
      split
      · exact h
      · next hne =>
        have hts : t < s := by
          cases String.le_total s t with
          | inl hle => exact absurd (String.le_antisymm hle (String.not_lt.1 hs)) hne
          | inr hle =>
            exact String.not_le.1 fun hle' => hne (String.le_antisymm hle' hle)
        refine List.pairwise_cons.2 ⟨fun u hu => ?_, insertAscending_pairwise (List.pairwise_cons.1 h).2⟩
        cases mem_insertAscending.1 hu with
        | inl e => exact e ▸ hts
        | inr hu => exact ht u hu

/-- A set of texts. -/
structure TextSet where
  /-- The texts, in ascending order. -/
  elems : List String
  /-- No text comes twice, and each comes at its place. -/
  ascending : elems.Pairwise (· < ·)
deriving DecidableEq, Repr

namespace TextSet

/-- No texts. -/
def empty : TextSet := ⟨[], .nil⟩

/-- The set with one more text. -/
def insert (s : String) (t : TextSet) : TextSet :=
  ⟨insertAscending s t.elems, insertAscending_pairwise t.ascending⟩

/-- The texts of a list, whatever their order and however often they come. -/
def ofList (l : List String) : TextSet := l.foldr insert empty

instance : Membership String TextSet := ⟨fun t s => s ∈ t.elems⟩

instance : Inhabited TextSet := ⟨empty⟩

@[simp] theorem mem_elems {s : String} {t : TextSet} : s ∈ t.elems ↔ s ∈ t := Iff.rfl

@[simp] theorem not_mem_empty {s : String} : ¬ s ∈ empty := List.not_mem_nil

@[simp] theorem mem_insert {s u : String} {t : TextSet} : u ∈ t.insert s ↔ u = s ∨ u ∈ t :=
  mem_insertAscending

/-- A set made of a list has the elements of the list. -/
@[simp] theorem mem_ofList {s : String} : ∀ {l : List String}, s ∈ ofList l ↔ s ∈ l
  | [] => by simp [ofList]
  | u :: us => by
    have ih := mem_ofList (s := s) (l := us)
    simp only [ofList, List.foldr_cons, mem_insert, List.mem_cons] at ih ⊢
    rw [ih]

/-- Sets with the same elements are equal. -/
@[ext] theorem ext {t u : TextSet} (h : ∀ s, s ∈ t ↔ s ∈ u) : t = u := by
  obtain ⟨l, hl⟩ := t
  obtain ⟨m, hm⟩ := u
  have hnodup {k : List String} (hk : k.Pairwise (· < ·)) : k.Nodup :=
    hk.imp fun {a b} hlt => by
      rintro rfl
      exact String.lt_irrefl a hlt
  have hperm : l.Perm m := (List.perm_ext_iff_of_nodup (hnodup hl) (hnodup hm)).2 h
  have heq : l = m := hperm.eq_of_pairwise
    (fun a b _ _ hab hba => absurd (String.lt_trans hab hba) (String.lt_irrefl a)) hl hm
  subst heq
  rfl

/-- A set is what is made of the list of its elements. -/
@[simp] theorem ofList_elems (t : TextSet) : ofList t.elems = t := by
  ext s
  exact mem_ofList

end TextSet

end StatusWait
