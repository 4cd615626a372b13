import StatusWait.Json.Shape

/-!
# What comes back of JSON that was written

What is written as compact JSON text and read again comes back, but for one thing: the writer escapes a
control character that has no short escape by its code, and the reader keeps the escapes of codes as it
finds them. No decoder sees the difference.

## The model

`Text.reread` and `Value.reread` say what comes back of a string and of a value.

## What is proved

* `Text.decode_reread` — what comes back of a string stands for the same characters.
* `Value.text?_reread`, `Value.caseName?_reread`, `Value.list?_reread`, `field?_reread` and so on — each
  shape is decoded alike.
-/

namespace StatusWait.Json

/-! ### What comes back -/

/-- The characters that have a short escape. -/
def shortEscaped : List Char := ['\x08', '\x0C', '\n', '\r', '\t']

/-- What comes back of an element of a string: a control character without a short escape comes back as
its code. -/
def Piece.reread : Piece → Piece
  | .char c => if c.toNat < 0x20 ∧ c ∉ shortEscaped then .unit c.toNat else .char c
  | .unit u => .unit u

/-- What comes back of a string. -/
def Text.reread (t : Text) : Text := t.map Piece.reread

/-- What comes back of a value. -/
def Value.reread : Value → Value
  | .null => .null
  | .bool b => .bool b
  | .number literal => .number literal
  | .string text => .string text.reread
  | .array items => .array (rereadItems items)
  | .object members => .object (rereadMembers members)
where
  /-- What comes back of the items of an array. -/
  rereadItems : List Value → List Value
    | [] => []
    | v :: vs => v.reread :: rereadItems vs
  /-- What comes back of the members of an object. -/
  rereadMembers : List (Text × Value) → List (Text × Value)
    | [] => []
    | (k, v) :: ms => (k.reread, v.reread) :: rereadMembers ms

namespace Value

@[simp] theorem reread_array (items : List Value) :
    (array items).reread = .array (items.map reread) := by
  have h (vs : List Value) : reread.rereadItems vs = vs.map reread := by
    induction vs with
    | nil => rfl
    | cons v vs ih => rw [reread.rereadItems, ih, List.map_cons]
  rw [reread, h]

@[simp] theorem reread_object (members : List (Text × Value)) :
    (object members).reread = .object (members.map fun m => (m.1.reread, m.2.reread)) := by
  have h (ms : List (Text × Value)) :
      reread.rereadMembers ms = ms.map fun m => (m.1.reread, m.2.reread) := by
    induction ms with
    | nil => rfl
    | cons m ms ih => rw [reread.rereadMembers, ih, List.map_cons]
  rw [reread, h]

end Value

/-! ### Decoders do not see the difference -/

theorem Text.decode_unit {u : Nat} (h : isHigh u = false) (h' : isLow u = false) (t : Text) :
    decode (.unit u :: t) = (Char.ofNat u :: ·) <$> decode t := by
  cases t with
  | nil => simp [decode, h, h']
  | cons p t => cases p <;> simp [decode, h, h']

theorem not_surrogate_of_lt {u : Nat} (h : u < 0x20) : isHigh u = false ∧ isLow u = false := by
  simp only [isHigh, isLow, Bool.and_eq_false_iff, decide_eq_false_iff_not]
  omega

theorem Text.decode_reread_char (c : Char) (t : Text) :
    decode ((Piece.char c).reread :: t) = (c :: ·) <$> decode t := by
  by_cases h : c.toNat < 0x20 ∧ c ∉ shortEscaped
  · obtain ⟨hhigh, hlow⟩ := not_surrogate_of_lt h.1
    rw [Piece.reread, if_pos h, decode_unit hhigh hlow, Char.ofNat_toNat]
  · rw [Piece.reread, if_neg h, decode]

/-- Behind a surrogate, what comes back of a character is no low surrogate. -/
theorem Text.decode_surrogate_reread_char {u : Nat} (h : isHigh u = true ∨ isLow u = true) (c : Char)
    (t : Text) : decode (.unit u :: (Piece.char c).reread :: t) = none := by
  by_cases hc : c.toNat < 0x20 ∧ c ∉ shortEscaped
  · obtain ⟨-, hlow⟩ := not_surrogate_of_lt hc.1
    rw [Piece.reread, if_pos hc]
    rcases h with h | h <;> simp [decode, h, hlow]
  · rw [Piece.reread, if_neg hc]
    rcases h with h | h <;> simp [decode, h]

/-- **What comes back of a string stands for the same characters.** -/
theorem Text.decode_reread : ∀ t : Text, decode t.reread = decode t
  | [] => rfl
  | .char c :: t => by
    have ih := decode_reread t
    show decode ((Piece.char c).reread :: reread t) = decode (.char c :: t)
    rw [decode_reread_char, ih, decode]
  | [.unit u] => rfl
  -- What a unit stands for depends on the element behind it.
  | .unit u :: .unit v :: t => by
    have ih := decode_reread t
    have ih' : decode (.unit v :: reread t) = decode (.unit v :: t) := decode_reread (.unit v :: t)
    show decode (.unit u :: .unit v :: reread t) = decode (.unit u :: .unit v :: t)
    rw [decode, decode, ih, ih']
  | .unit u :: .char c :: t => by
    have ih : decode ((Piece.char c).reread :: reread t) = decode (.char c :: t) :=
      decode_reread (.char c :: t)
    show decode (.unit u :: (Piece.char c).reread :: reread t) = decode (.unit u :: .char c :: t)
    by_cases h : isHigh u = true ∨ isLow u = true
    · rw [decode_surrogate_reread_char h]
      rcases h with h | h <;> simp [decode, h]
    · rw [not_or, Bool.not_eq_true, Bool.not_eq_true] at h
      rw [decode_unit h.1 h.2, decode_unit h.1 h.2, ih]

@[simp] theorem Text.toString?_reread (t : Text) : t.reread.toString? = t.toString? := by
  rw [toString?, toString?, decode_reread]

namespace Value

variable {v : Value}

@[simp] theorem text?_reread (v : Value) : v.reread.text? = v.text? := by
  cases v with
  | string t => exact t.toString?_reread
  | null | bool | number | array | object => rfl

@[simp] theorem nullableText?_reread (v : Value) : v.reread.nullableText? = v.nullableText? := by
  cases v with
  | null => rfl
  | string t => exact congrArg (some <$> ·) (text?_reread (.string t))
  | bool | number | array | object => rfl

@[simp] theorem caseName?_reread (v : Value) : v.reread.caseName? = v.caseName? := by
  cases v with
  | string t => exact t.toString?_reread
  | object members =>
    rw [reread_object]
    match members with
    | [] => rfl
    | [(key, .null)] => exact key.toString?_reread
    | [(_, .bool _)] | [(_, .number _)] | [(_, .string _)] | [(_, .array _)] | [(_, .object _)] => rfl
    | _ :: _ :: _ => simp [caseName?]
  | null | bool | number | array => rfl

theorem list?_reread {α : Type} {decode : Value → Option α} (h : ∀ v, decode v.reread = decode v)
    (v : Value) : v.reread.list? decode = v.list? decode := by
  cases v with
  | array items =>
    rw [reread_array]
    show (items.map reread).mapM decode = items.mapM decode
    induction items with
    | nil => rfl
    | cons v vs ih => rw [List.map_cons, List.mapM_cons, List.mapM_cons, h, ih]
  | null | bool | number | string | object => rfl

end Value

theorem fields?_cons (key : Text) (v : Value) (members : List (Text × Value)) :
    fields? ((key, v) :: members) =
      key.toString?.bind fun name => (fields? members).map ((name, v) :: ·) := by
  rw [fields?, List.mapM_cons]
  show (((·, v) <$> key.toString?).bind fun f => (fields? members).bind fun fs => some (f :: fs)) = _
  cases key.toString? with
  | none => rfl
  | some name => cases fields? members <;> rfl

theorem fields?_reread (members : List (Text × Value)) :
    fields? (members.map fun m => (m.1.reread, m.2.reread)) =
      (fields? members).map (List.map fun f => (f.1, f.2.reread)) := by
  induction members with
  | nil => rfl
  | cons m ms ih =>
    obtain ⟨key, v⟩ := m
    rw [List.map_cons, fields?_cons, fields?_cons, ih, Text.toString?_reread]
    cases key.toString? with
    | none => rfl
    | some name => cases fields? ms <;> rfl

theorem field?_reread (name : String) (fields : List (String × Value)) :
    field? name (fields.map fun f => (f.1, f.2.reread)) =
      (field? name fields).map (Option.map Value.reread) := by
  have hfilter : (fields.map fun f => (f.1, f.2.reread)).filter (fun f => f.1 = name) =
      (fields.filter fun f => f.1 = name).map fun f => (f.1, f.2.reread) := List.filter_map
  unfold field?
  rw [hfilter]
  generalize fields.filter (fun f => f.1 = name) = found
  match found with
  | [] | [_] | _ :: _ :: _ => rfl

end StatusWait.Json
