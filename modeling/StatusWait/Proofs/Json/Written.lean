import StatusWait.Proofs.Json.Reread
import StatusWait.Proofs.Json.Spelling

/-!
# Reading JSON that was written

Compact JSON text is read back as the value that it was written for.

## The model

A value is `WellFormed` if its numbers are numbers and the units in its strings fit into four digits; what
is written for any other value is not read.

## What is proved

* `Text.spelling_reread` — what is written for a string spells what comes back of it.
* `Value.WellFormed.spells` — what is written for a value spells what comes back of it.
* `read_toText` — a value that is written and read again comes back.
-/

namespace StatusWait.Json

/-! ### The compact spelling -/

namespace Value

theorem render_array (items : List Value) :
    (array items).render = '[' :: commas (items.map render) ++ [']'] := by
  have h (vs : List Value) : render.renderItems vs = vs.map render := by
    induction vs with
    | nil => rfl
    | cons v vs ih => exact congrArg (v.render :: ·) ih
  exact congrArg (fun parts => '[' :: commas parts ++ [']']) (h items)

/-- A member of an object, as it is written. -/
def renderMember (m : Text × Value) : List Char := renderText m.1 ++ ':' :: m.2.render

theorem render_object (members : List (Text × Value)) :
    (object members).render = '\x7B' :: commas (members.map renderMember) ++ ['\x7D'] := by
  have h (ms : List (Text × Value)) : render.renderMembers ms = ms.map renderMember := by
    induction ms with
    | nil => rfl
    | cons m ms ih => exact congrArg (renderMember m :: ·) ih
  exact congrArg (fun parts => '\x7B' :: commas parts ++ ['\x7D']) (h members)

end Value

theorem commas_cons (part : List Char) (parts : List (List Char)) :
    commas (part :: parts) = part ++ parts.flatMap (',' :: ·) := by
  induction parts generalizing part with
  | nil => simp [commas, List.intercalate]
  | cons next parts ih =>
    have hnext := ih next
    unfold commas at hnext ⊢
    rw [List.intercalate_cons_cons, hnext, List.flatMap_cons]
    simp

/-! ### What can be written -/

/-- The elements of a string that four digits can write. -/
def Text.Readable (t : Text) : Prop := ∀ u, Piece.unit u ∈ t → u < 0x10000

/-- The values that are read again when they are written. -/
inductive Value.WellFormed : Value → Prop
  | null : WellFormed .null
  | bool (b : Bool) : WellFormed (.bool b)
  | number {literal : List Char} (h : IsNumber literal) : WellFormed (.number literal)
  | string {t : Text} (h : t.Readable) : WellFormed (.string t)
  | array {items : List Value} (h : ∀ v ∈ items, WellFormed v) : WellFormed (.array items)
  | object {members : List (Text × Value)} (hkeys : ∀ m ∈ members, m.1.Readable)
      (h : ∀ m ∈ members, WellFormed m.2) : WellFormed (.object members)

theorem Text.readable_ofString (s : String) : (ofString s).Readable := by
  intro u hu
  obtain ⟨c, -, h⟩ := List.mem_map.1 hu
  cases h

/-! ### Strings are spelled as they were written -/

theorem hexValue?_hexDigit : ∀ d < 16, hexValue? (hexDigit d) = some d := by
  decide

theorem Text.Spelling.renderUnit {u : Nat} (hu : u < 0x10000) {t : Text} {body : List Char}
    (h : t.Spelling body) : Text.Spelling (.unit u :: t) (Json.renderUnit u ++ body) := by
  have hdigit {d : Nat} : hexValue? (hexDigit (d % 16)) = some (d % 16) :=
    hexValue?_hexDigit _ (Nat.mod_lt _ (by decide))
  have hvalue : ((u / 4096 % 16 * 16 + u / 256 % 16) * 16 + u / 16 % 16) * 16 + u % 16 = u := by
    omega
  have hspelling := Text.Spelling.unit (hdigit (d := u / 4096)) (hdigit (d := u / 256))
    (hdigit (d := u / 16)) (hdigit (d := u)) h
  rw [hvalue] at hspelling
  exact hspelling

/-- What is written for a character spells what comes back of it. -/
theorem Text.Spelling.renderChar (c : Char) {t : Text} {body : List Char} (h : t.Spelling body) :
    Text.Spelling ((Piece.char c).reread :: t) (Json.renderChar c ++ body) := by
  unfold Json.renderChar
  split
  case h_8 hquote hslash hb hf hn hr ht =>
    by_cases hcontrol : c.toNat < 0x20
    · have hlong : c ∉ shortEscaped := by
        simp only [shortEscaped, List.mem_cons, List.not_mem_nil, or_false, not_or]
        exact ⟨hb, hf, hn, hr, ht⟩
      rw [if_pos hcontrol, Piece.reread, if_pos ⟨hcontrol, hlong⟩]
      exact h.renderUnit (by omega)
    · rw [if_neg hcontrol, Piece.reread, if_neg fun hc => hcontrol hc.1]
      exact .plain hquote hslash hcontrol h
  -- the seven characters with short escapes
  all_goals exact .short rfl h

/-- **What is written for a string spells what comes back of it.** -/
theorem Text.spelling_reread {t : Text} (h : t.Readable) : t.reread.Spelling (t.flatMap renderPiece) := by
  induction t with
  | nil => exact .nil
  | cons p t ih =>
    have ht := ih fun u hu => h u (List.mem_cons_of_mem p hu)
    rw [List.flatMap_cons]
    cases p with
    | char c => exact ht.renderChar c
    | unit u => exact ht.renderUnit (h u List.mem_cons_self)

/-! ### Values are spelled as they were written -/

theorem Spells.renderText {t : Text} (ht : t.Readable) {text rest : List Char} {ts : List Token}
    (h : Spells text ts rest) : Spells (Json.renderText t ++ text) (.string t.reread :: ts) rest := by
  have hstring := Spells.string (Text.spelling_reread ht) h
  rw [Json.renderText, List.append_assoc]
  exact hstring

/-- What follows an item, the other items and the end, may follow a word or a number. -/
theorem parted_tail {α : Type} (write : α → List Char) (others : List α) {c : Char}
    (h : c = ']' ∨ c = '\x7D') (rest : List Char) :
    Parted (others.flatMap (fun x => ',' :: write x) ++ c :: rest) := by
  cases others with
  | nil => exact .cons (by rcases h with rfl | rfl <;> decide) rest
  | cons x xs => exact .cons (by decide) _

theorem Spells.moreItems {items : List Value}
    (h : ∀ v ∈ items, ∀ rest, Parted rest → Spells (v.render ++ rest) v.reread.tokens rest)
    (rest : List Char) :
    Spells (items.flatMap (fun v => ',' :: v.render) ++ ']' :: rest)
      (Value.tokens.moreItems (items.map Value.reread)) rest := by
  induction items with
  | nil => exact .sign rfl (.done rest)
  | cons v vs ih =>
    have hv := h v List.mem_cons_self _ (parted_tail Value.render vs (.inl rfl) rest)
    have hvs := ih fun w hw => h w (List.mem_cons_of_mem v hw)
    rw [List.flatMap_cons, List.append_assoc]
    exact .sign rfl (hv.append hvs)

theorem Spells.renderMember {m : Text × Value} {text rest : List Char} {ts : List Token}
    (hkey : m.1.Readable) (hv : Spells (m.2.render ++ text) m.2.reread.tokens text)
    (h : Spells text ts rest) : Spells (Value.renderMember m ++ text)
      (.string m.1.reread :: .colon :: m.2.reread.tokens ++ ts) rest := by
  rw [Value.renderMember, List.append_assoc]
  exact .renderText hkey (.sign rfl (hv.append h))

theorem Spells.moreMembers {members : List (Text × Value)} (hkeys : ∀ m ∈ members, m.1.Readable)
    (h : ∀ m ∈ members, ∀ rest, Parted rest → Spells (m.2.render ++ rest) m.2.reread.tokens rest)
    (rest : List Char) :
    Spells (members.flatMap (fun m => ',' :: Value.renderMember m) ++ '\x7D' :: rest)
      (Value.tokens.moreMembers (members.map fun m => (m.1.reread, m.2.reread))) rest := by
  induction members with
  | nil => exact .sign rfl (.done rest)
  | cons m ms ih =>
    have hv := h m List.mem_cons_self _ (parted_tail Value.renderMember ms (.inr rfl) rest)
    have hms := ih (fun n hn => hkeys n (List.mem_cons_of_mem m hn))
      fun n hn => h n (List.mem_cons_of_mem m hn)
    rw [List.flatMap_cons, List.append_assoc]
    exact .sign rfl (.renderMember (hkeys m List.mem_cons_self) hv hms)

/-- **What is written for a value spells what comes back of it**, in front of any text that does not run
into it. -/
theorem Value.WellFormed.spells {v : Value} (h : v.WellFormed) :
    ∀ rest, Parted rest → Spells (v.render ++ rest) v.reread.tokens rest := by
  induction h with
  | null => exact fun rest hrest => .null hrest (.done rest)
  | bool b => exact fun rest hrest => .bool b hrest (.done rest)
  | number h => exact fun rest hrest => .number h hrest (.done rest)
  | string h => exact fun rest _ => .renderText h (.done rest)
  | @array items _ ih =>
    intro rest _
    rw [reread_array, render_array, List.append_assoc, List.cons_append]
    cases items with
    | nil => exact .sign rfl (.sign rfl (.done rest))
    | cons v vs =>
      have hv := ih v List.mem_cons_self _ (parted_tail render vs (.inl rfl) rest)
      have hvs := Spells.moreItems (fun w hw => ih w (List.mem_cons_of_mem v hw)) rest
      rw [List.map_cons, commas_cons, List.flatMap_map, List.append_assoc]
      exact .sign rfl (hv.append hvs)
  | @object members hkeys _ ih =>
    intro rest _
    rw [reread_object, render_object, List.append_assoc, List.cons_append]
    cases members with
    | nil => exact .sign rfl (.sign rfl (.done rest))
    | cons m ms =>
      have hv := ih m List.mem_cons_self _ (parted_tail renderMember ms (.inr rfl) rest)
      have hms := Spells.moreMembers (fun n hn => hkeys n (List.mem_cons_of_mem m hn))
        (fun n hn => ih n (List.mem_cons_of_mem m hn)) rest
      rw [List.map_cons, commas_cons, List.flatMap_map, List.append_assoc]
      exact .sign rfl (.renderMember (hkeys m List.mem_cons_self) hv hms)

theorem Value.WellFormed.spells_toText {v : Value} (h : v.WellFormed) :
    Spells v.toText.toList v.reread.tokens [] := by
  have hspells := h.spells [] .nil
  rw [List.append_nil] at hspells
  rw [toText, String.toList_ofList]
  exact hspells

/-- **A value that is written and read again comes back.** -/
theorem read_toText {v : Value} (h : v.WellFormed) : read v.toText = some v.reread := by
  rw [read, readFirst_of_spells h.spells_toText]

end StatusWait.Json
