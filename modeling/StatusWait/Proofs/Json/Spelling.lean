import StatusWait.Json.Reader

/-!
# The spellings of JSON

The same JSON value can be spelled in many ways: with white space between its tokens, and with a character of
a string as it stands, by a short escape or by its code. This module says which texts spell a value, and that
the reader takes every one of them for the value.

## The model

`Text.Spelling` relates a string to what may stand between its quotation marks. `Spells text ts rest` says
that `text` begins with a spelling of the tokens `ts` and that `rest` follows them. Where a token ends depends
on what follows it, so the rules look at all of the text, and spellings can be put together. `Value.tokens` are
the tokens of a value.

## What is proved

* `Spells.tokens_eq` — the scanner finds the tokens that a text spells.
* `run_tokens` — the reader, wherever a value may begin and whatever follows, takes the tokens of a value,
  delivers the value and goes on with the rest.
* `readFirst_of_spells` — a text that spells a value is read as this value, and nothing of it is left.
-/

namespace StatusWait.Json

/-! ### Strings -/

/-- What may stand between the quotation marks of a string: characters as they are or by short escapes, and
units by their four digits. -/
inductive Text.Spelling : Text → List Char → Prop
  | nil : Spelling [] []
  | plain {c : Char} {t : Text} {body : List Char} (hquote : c ≠ '"') (hslash : c ≠ '\\')
      (hcontrol : ¬ c.toNat < 0x20) (h : Spelling t body) : Spelling (.char c :: t) (c :: body)
  | short {letter c : Char} {t : Text} {body : List Char} (hc : escaped? letter = some c)
      (h : Spelling t body) : Spelling (.char c :: t) ('\\' :: letter :: body)
  | unit {d₁ d₂ d₃ d₄ : Char} {n₁ n₂ n₃ n₄ : Nat} {t : Text} {body : List Char}
      (h₁ : hexValue? d₁ = some n₁) (h₂ : hexValue? d₂ = some n₂) (h₃ : hexValue? d₃ = some n₃)
      (h₄ : hexValue? d₄ = some n₄) (h : Spelling t body) :
      Spelling (.unit (((n₁ * 16 + n₂) * 16 + n₃) * 16 + n₄) :: t)
        ('\\' :: 'u' :: d₁ :: d₂ :: d₃ :: d₄ :: body)

theorem scan_cons {m n : Mode} {c : Char} {ts : List Token} (h : m.step c = some (n, ts))
    (cs : List Char) : scan m (c :: cs) = ts ++ scan n cs := by
  rw [scan, h]

theorem scan_unit {d : Char} {n : Nat} (h : hexValue? d = some n) (read : Text) (left value : Nat)
    (cs : List Char) : scan (.unit read (left + 2) value) (d :: cs) =
      scan (.unit read (left + 1) (value * 16 + n)) cs := by
  have hstep : (Mode.unit read (left + 2) value).step d =
      some (.unit read (left + 1) (value * 16 + n), []) := by
    simp [Mode.step, h]
  exact scan_cons hstep cs

theorem scan_unit_last {d : Char} {n : Nat} (h : hexValue? d = some n) (read : Text) (value : Nat)
    (cs : List Char) : scan (.unit read 1 value) (d :: cs) =
      scan (.string (.unit (value * 16 + n) :: read)) cs := by
  have hstep : (Mode.unit read 1 value).step d = some (.string (.unit (value * 16 + n) :: read), []) := by
    simp [Mode.step, h]
  exact scan_cons hstep cs

/-- **A string is read as what it spells**, up to the quotation mark. -/
theorem Text.Spelling.scan_eq {t : Text} {body : List Char} (h : t.Spelling body) (read : Text)
    (rest : List Char) :
    scan (.string read) (body ++ '"' :: rest) = .string (read.reverse ++ t) :: tokens rest := by
  -- The scanner keeps what it has read last first, so the induction is for anything read before.
  induction h generalizing read with
  | nil =>
    rw [List.append_nil]
    rfl
  | @plain c t body hquote hslash hcontrol _ ih =>
    have hstep : (Mode.string read).step c = some (.string (.char c :: read), []) := by
      simp only [Mode.step, if_neg hquote, if_neg hslash, if_neg hcontrol]
    rw [List.cons_append, scan_cons hstep, List.nil_append, ih, List.reverse_cons, List.append_assoc]
    rfl
  | @short letter c t body hc _ ih =>
    have hletter : letter ≠ 'u' := by
      rintro rfl
      cases hc
    have hstep : (Mode.escape read).step letter = some (.string (.char c :: read), []) := by
      simp [Mode.step, hletter, hc]
    rw [List.cons_append, List.cons_append, scan_cons (n := .escape read) rfl, scan_cons hstep,
      List.nil_append, List.nil_append, ih, List.reverse_cons, List.append_assoc]
    rfl
  | @unit d₁ d₂ d₃ d₄ n₁ n₂ n₃ n₄ t body h₁ h₂ h₃ h₄ _ ih =>
    show scan (.string read) ('\\' :: 'u' :: d₁ :: d₂ :: d₃ :: d₄ :: (body ++ '"' :: rest)) = _
    rw [scan_cons (n := .escape read) rfl, scan_cons (n := .unit read 4 0) rfl, List.nil_append,
      List.nil_append, scan_unit h₁, scan_unit h₂, scan_unit h₃, scan_unit_last h₄, Nat.zero_mul,
      Nat.zero_add, ih, List.reverse_cons, List.append_assoc]
    rfl

/-! ### Words and numbers -/

/-- A text that may follow a word or a number: it is empty, or it begins with white space, a comma or the end
of an array or an object. -/
def Parted (text : List Char) : Prop := ∀ c ∈ text.head?, c ∈ [' ', '\t', '\n', '\r', ',', ']', '\x7D']

theorem Parted.nil : Parted [] := by
  intro c h
  cases h

theorem Parted.cons {c : Char} (h : c ∈ [' ', '\t', '\n', '\r', ',', ']', '\x7D']) (text : List Char) :
    Parted (c :: text) := by
  intro d hd
  obtain rfl : c = d := Option.some.inj hd
  exact h

/-- A text that begins with one of the characters that part words and numbers. -/
theorem Parted.cases {text : List Char} (h : Parted text) :
    text = [] ∨ ∃ c cs, text = c :: cs ∧
      (c = ' ' ∨ c = '\t' ∨ c = '\n' ∨ c = '\r' ∨ c = ',' ∨ c = ']' ∨ c = '\x7D') := by
  cases text with
  | nil => exact .inl rfl
  | cons c cs => exact .inr ⟨c, cs, rfl, by simpa using h c rfl⟩

/-- What the first character of a number is. -/
def NumberPart.first? (c : Char) : Option NumberPart :=
  if c = '-' then some .sign
  else if c = '0' then some .zero
  else if c.isDigit then some .whole
  else none

/-- The characters are a number: it may begin as it does, go on as it does, and end where it does. -/
def IsNumber : List Char → Prop
  | [] => False
  | c :: cs => ∃ p q, NumberPart.first? c = some p ∧ cs.foldlM NumberPart.next p = some q ∧
      q.isComplete = true

/-- A word ends where it is parted from the rest. -/
theorem scan_word {rest : List Char} (h : Parted rest) (read : List Char) :
    scan (.word read) rest = word read.reverse :: tokens rest := by
  obtain rfl | ⟨c, cs, rfl, rfl | rfl | rfl | rfl | rfl | rfl | rfl⟩ := h.cases
  all_goals rfl

theorem scan_number {rest : List Char} (h : Parted rest) {p : NumberPart} (hp : p.isComplete = true)
    (read : List Char) : scan (.number p read) rest = .number read.reverse :: tokens rest := by
  obtain rfl | ⟨c, cs, rfl, hc⟩ := h.cases
  · show (Mode.number p read).finish = _
    rw [Mode.finish, if_pos hp]
    rfl
  · obtain rfl | rfl | rfl | rfl | rfl | rfl | rfl := hc
    all_goals cases p <;> first | rfl | cases hp

theorem start_of_first? {c : Char} {p : NumberPart} (h : NumberPart.first? c = some p) :
    Mode.start c = some (.number p [c], []) := by
  unfold NumberPart.first? at h
  split at h
  · next e => subst e; cases h; rfl
  · next hminus =>
    split at h
    · next e => subst e; cases h; rfl
    · next hzero =>
      split at h
      · next hdigit =>
        have hne {d : Char} (hd : d.isDigit = false) : c ≠ d := by
          rintro rfl
          exact absurd hdigit (hd ▸ Bool.false_ne_true)
        have hblank : isBlank c = false := by
          simp [isBlank, hne (d := ' ') rfl, hne (d := '\t') rfl, hne (d := '\n') rfl, hne (d := '\r') rfl]
        have hsign : sign? c = none := by
          unfold sign?
          split
          all_goals first | rfl | exact absurd rfl (hne rfl)
        cases h
        simp [Mode.start, hblank, hsign, hminus, hzero, hdigit, hne (d := '"') rfl]
      · cases h

theorem scan_number_part {cs : List Char} {p q : NumberPart} (h : cs.foldlM NumberPart.next p = some q)
    (read rest : List Char) :
    scan (.number p read) (cs ++ rest) = scan (.number q (cs.reverse ++ read)) rest := by
  induction cs generalizing p read with
  | nil =>
    cases h
    rfl
  | cons d ds ih =>
    rw [List.foldlM_cons] at h
    obtain ⟨p', hp', hds⟩ := Option.bind_eq_some_iff.1 h
    have hstep : (Mode.number p read).step d = some (.number p' (d :: read), []) := by
      rw [Mode.step, hp']
    rw [List.cons_append, scan_cons hstep, List.nil_append, ih hds, List.reverse_cons, List.append_assoc]
    rfl

/-- **A number is read as it was written.** -/
theorem tokens_number {literal : List Char} (h : IsNumber literal) {rest : List Char}
    (hrest : Parted rest) : tokens (literal ++ rest) = .number literal :: tokens rest := by
  match literal, h with
  | c :: cs, ⟨p, q, hc, hcs, hq⟩ =>
    have hfirst : Mode.between.step c = some (.number p [c], []) := start_of_first? hc
    show scan .between (c :: (cs ++ rest)) = _
    rw [scan_cons hfirst, List.nil_append, scan_number_part hcs, scan_number hrest hq]
    simp

/-! ### Tokens -/

/-- The text begins with a spelling of the tokens, and the rest follows them. White space may stand anywhere
in front of a token. -/
inductive Spells : List Char → List Token → List Char → Prop
  | done (rest : List Char) : Spells rest [] rest
  | blank {c : Char} {text : List Char} {ts : List Token} {rest : List Char} (hc : isBlank c = true)
      (h : Spells text ts rest) : Spells (c :: text) ts rest
  | sign {c : Char} {t : Token} {text : List Char} {ts : List Token} {rest : List Char}
      (hc : sign? c = some t) (h : Spells text ts rest) : Spells (c :: text) (t :: ts) rest
  | null {text : List Char} {ts : List Token} {rest : List Char} (hparted : Parted text)
      (h : Spells text ts rest) : Spells (Value.null.render ++ text) (.null :: ts) rest
  | bool (b : Bool) {text : List Char} {ts : List Token} {rest : List Char} (hparted : Parted text)
      (h : Spells text ts rest) : Spells ((Value.bool b).render ++ text) (.bool b :: ts) rest
  | number {literal text : List Char} {ts : List Token} {rest : List Char} (hliteral : IsNumber literal)
      (hparted : Parted text) (h : Spells text ts rest) :
      Spells (literal ++ text) (.number literal :: ts) rest
  | string {t : Text} {body text : List Char} {ts : List Token} {rest : List Char}
      (ht : t.Spelling body) (h : Spells text ts rest) :
      Spells ('"' :: body ++ '"' :: text) (.string t :: ts) rest

namespace Spells

variable {text middle rest : List Char} {ts us : List Token}

theorem append (h : Spells text ts middle) (h' : Spells middle us rest) : Spells text (ts ++ us) rest := by
  induction h with
  | done => exact h'
  | blank hc _ ih => exact .blank hc (ih h')
  | sign hc _ ih => exact .sign hc (ih h')
  | null hparted _ ih => exact .null hparted (ih h')
  | bool b hparted _ ih => exact .bool b hparted (ih h')
  | number hliteral hparted _ ih => exact .number hliteral hparted (ih h')
  | string ht _ ih => exact .string ht (ih h')

/-- **The scanner finds the tokens that a text spells.** -/
theorem tokens_eq (h : Spells text ts rest) : tokens text = ts ++ tokens rest := by
  induction h with
  | done => rfl
  | @blank c text ts rest hc _ ih =>
    have hstep : Mode.between.step c = some (.between, []) := if_pos hc
    exact (scan_cons hstep text).trans ih
  | @sign c t text ts rest hc _ ih =>
    have hstep : Mode.between.step c = some (.between, [t]) := by
      unfold sign? at hc
      split at hc <;> cases hc <;> rfl
    exact (scan_cons hstep text).trans (congrArg (t :: ·) ih)
  | null hparted _ ih => exact (scan_word hparted _).trans (congrArg (Token.null :: ·) ih)
  | bool b hparted _ ih =>
    cases b with
    | true => exact (scan_word hparted _).trans (congrArg (Token.bool true :: ·) ih)
    | false => exact (scan_word hparted _).trans (congrArg (Token.bool false :: ·) ih)
  | number hliteral hparted _ ih => rw [tokens_number hliteral hparted, ih, List.cons_append]
  | @string t body text ts rest ht _ ih =>
    have hopen : tokens ('"' :: body ++ '"' :: text) = scan (.string []) (body ++ '"' :: text) := rfl
    rw [hopen, ht.scan_eq, ih]
    rfl

end Spells

/-! ### Values -/

/-- The tokens of a value. -/
def Value.tokens : Value → List Token
  | .null => [.null]
  | .bool b => [.bool b]
  | .number literal => [.number literal]
  | .string text => [.string text]
  | .array [] => [.openArray, .closeArray]
  | .array (v :: vs) => .openArray :: v.tokens ++ moreItems vs
  | .object [] => [.openObject, .closeObject]
  | .object ((k, v) :: ms) => .openObject :: .string k :: .colon :: v.tokens ++ moreMembers ms
where
  /-- The items behind an item, and the end of the array. -/
  moreItems : List Value → List Token
    | [] => [.closeArray]
    | v :: vs => .comma :: v.tokens ++ moreItems vs
  /-- The members behind a member, and the end of the object. -/
  moreMembers : List (Text × Value) → List Token
    | [] => [.closeObject]
    | (k, v) :: ms => .comma :: .string k :: .colon :: v.tokens ++ moreMembers ms

/-- The stages at which a value may begin. -/
def Expect.BeginsValue (e : Expect) : Prop := e = .value ∨ e = .item

theorem run_cons (e : Expect) (stack : List Frame) (t : Token) (ts : List Token) :
    run (.reading e stack) (t :: ts) = (step e stack t).bind (run · ts) := rfl

/-- A value begins alike wherever it may begin. -/
theorem run_beginValue {e : Expect} (he : e.BeginsValue) {t : Token} (ht : t ≠ .closeArray)
    (stack : List Frame) (ts : List Token) :
    run (.reading e stack) (t :: ts) = (beginValue stack t).bind (run · ts) := by
  obtain rfl | rfl := he
  · rfl
  · rw [run_cons, step, if_neg ht]

mutual

/-- **The tokens of a value are read as the value**, wherever it may begin and whatever follows. -/
theorem run_tokens (v : Value) {e : Expect} (he : e.BeginsValue) (stack : List Frame) (ts : List Token) :
    run (.reading e stack) (v.tokens ++ ts) = (deliver v stack).bind (run · ts) := by
  match v with
  | .null => exact run_beginValue he (by decide) stack ts
  | .bool b => exact run_beginValue he (by simp) stack ts
  | .number literal => exact run_beginValue he (by simp) stack ts
  | .string t => exact run_beginValue he (by simp) stack ts
  | .array [] => exact run_beginValue he (by decide) stack _
  | .array (v :: vs) =>
    have hopen (us : List Token) : run (.reading e stack) (.openArray :: us) =
        run (.reading .item (.array [] :: stack)) us := run_beginValue he (by decide) stack us
    rw [Value.tokens, List.append_assoc, List.cons_append, hopen, run_tokens v (.inr rfl)]
    exact run_moreItems vs [v] stack ts
  | .object [] => exact run_beginValue he (by decide) stack _
  | .object ((k, v) :: ms) =>
    have hopen (us : List Token) : run (.reading e stack) (.openObject :: .string k :: .colon :: us) =
        run (.reading .value (.member [] k :: stack)) us := run_beginValue he (by decide) stack _
    rw [Value.tokens, List.append_assoc, List.cons_append, List.cons_append, List.cons_append, hopen,
      run_tokens v (.inl rfl)]
    exact run_moreMembers ms [(k, v)] stack ts

theorem run_moreItems (items acc : List Value) (stack : List Frame) (ts : List Token) :
    run (.reading .more (.array acc :: stack)) (Value.tokens.moreItems items ++ ts) =
      (deliver (.array (acc.reverse ++ items)) stack).bind (run · ts) := by
  -- A frame keeps the items it has last first, so the induction is for any items read before.
  match items with
  | [] =>
    rw [List.append_nil]
    rfl
  | v :: vs =>
    have hcomma (us : List Token) : run (.reading .more (.array acc :: stack)) (.comma :: us) =
        run (.reading .value (.array acc :: stack)) us := rfl
    have hvs := run_moreItems vs (v :: acc) stack ts
    rw [List.reverse_cons, List.append_assoc] at hvs
    rw [Value.tokens.moreItems, List.append_assoc, List.cons_append, hcomma, run_tokens v (.inl rfl)]
    exact hvs

theorem run_moreMembers (members acc : List (Text × Value)) (stack : List Frame) (ts : List Token) :
    run (.reading .more (.object acc :: stack)) (Value.tokens.moreMembers members ++ ts) =
      (deliver (.object (acc.reverse ++ members)) stack).bind (run · ts) := by
  match members with
  | [] =>
    rw [List.append_nil]
    rfl
  | (k, v) :: ms =>
    have hcomma (us : List Token) :
        run (.reading .more (.object acc :: stack)) (.comma :: .string k :: .colon :: us) =
          run (.reading .value (.member acc k :: stack)) us := rfl
    have hms := run_moreMembers ms ((k, v) :: acc) stack ts
    rw [List.reverse_cons, List.append_assoc] at hms
    rw [Value.tokens.moreMembers, List.append_assoc, List.cons_append, List.cons_append, List.cons_append,
      hcomma, run_tokens v (.inl rfl)]
    exact hms

end

/-- **A text that spells a value is read as this value**, and nothing of it is left. -/
theorem readFirst_of_spells {text : String} {v : Value} (h : Spells text.toList v.tokens []) :
    readFirst text = some (v, []) := by
  rw [readFirst, h.tokens_eq, run_tokens v (.inl rfl)]
  rfl

end StatusWait.Json
