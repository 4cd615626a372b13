import StatusWait.Toml.Statement

/-!
# The spellings of TOML

A line of a TOML document can be spelled in many ways: with spaces and tabulators between its tokens, and with
a character of a basic string as it stands, by a short escape or by its code. This module says which texts
spell a row of tokens, and that the scanner finds the tokens in every one of them.

## The model

`Spelling` relates the characters of a basic string to what may stand between its quotation marks, and `Spells`
relates a text to its tokens. A run of blanks or of key characters goes as far as it can, and two quotation marks
in front of a third open a block; so the rules look at what follows a token.

## What is proved

* `Spelling.scan_eq`, `scan_basic` — a basic string is read as what it spells.
* `scan_run` — a run is read as one token, of key characters (`scan_key`) or blanks (`scan_spaces`).
* `Spells.scan_eq` — the scanner finds the tokens that a text spells.
-/

namespace StatusWait.Toml

/-! ### The scanner, one character at a time -/

theorem scan_step {m n : Mode} {c : Char} (h : m.step c = some (n, [])) (cs : List Char) :
    scan m (c :: cs) = scan n cs := by
  rw [scan, h]
  show ((scan n cs).bind fun rest => some ([] ++ rest)) = scan n cs
  cases scan n cs <;> rfl

theorem scan_emit {m n : Mode} {c : Char} {t : Token} (h : m.step c = some (n, [t])) (cs : List Char) :
    scan m (c :: cs) = (t :: ·) <$> scan n cs := by
  rw [scan, h]
  show ((scan n cs).bind fun rest => some ([t] ++ rest)) = (t :: ·) <$> scan n cs
  cases scan n cs <;> rfl

/-- A token that is complete when another one begins behind it, or the text ends. -/
theorem scan_after {m : Mode} {t : Token} {text : List Char} (hend : m.finish = some [t])
    (hnext : ∀ c ∈ text.head?, m.step c = Mode.startAfter t c) :
    scan m text = (t :: ·) <$> scan .between text := by
  cases text with
  | nil => exact hend
  | cons c cs =>
    have hbetween : Mode.between.step c = Mode.start c := rfl
    rw [scan, scan, hnext c rfl, hbetween, Mode.startAfter]
    cases hstart : Mode.start c with
    | none => rfl
    | some r =>
      obtain ⟨n, ts⟩ := r
      show ((scan n cs).bind fun rest => some (t :: ts ++ rest)) =
        ((scan n cs).bind fun rest => some (ts ++ rest)).map (t :: ·)
      cases scan n cs <;> rfl

/-! ### Basic strings -/

/-- One more hexadecimal digit of a number. -/
def addDigit? (n : Nat) (d : Char) : Option Nat := (n * 16 + ·) <$> hexValue? d

/-- What may stand between the quotation marks of a basic string on one line: characters as they are, by short
escapes, or by their codes. -/
inductive Spelling : List Char → List Char → Prop
  | nil : Spelling [] []
  | plain {c : Char} {cs body : List Char} (hquote : c ≠ '"') (hslash : c ≠ '\\')
      (hcontrol : isControl c = false) (h : Spelling cs body) : Spelling (c :: cs) (c :: body)
  | short {letter c : Char} {cs body : List Char} (hc : escaped? letter = some c) (h : Spelling cs body) :
      Spelling (c :: cs) ('\\' :: letter :: body)
  | code {letter c : Char} {digits cs body : List Char} (hletter : codeLength? letter = some digits.length)
      (hc : digits.foldlM addDigit? 0 = some c.toNat) (h : Spelling cs body) :
      Spelling (c :: cs) ('\\' :: letter :: digits ++ body)

theorem charOfCode?_toNat (c : Char) : charOfCode? c.toNat = some c := by
  have hvalid : c.toNat.isValidChar := c.valid
  rw [charOfCode?, if_pos hvalid, Char.ofNat_toNat]

theorem scan_code {digits : List Char} (hne : digits ≠ []) {value : Nat} {c : Char}
    (h : digits.foldlM addDigit? value = some c.toNat) (read rest : List Char) :
    scan (.code false read digits.length value) (digits ++ rest) =
      scan (.line .basic (c :: read)) rest := by
  -- The scanner carries the value of the digits before, so the induction is for any such value.
  induction digits generalizing value with
  | nil => exact absurd rfl hne
  | cons d ds ih =>
    rw [List.foldlM_cons] at h
    obtain ⟨value', hvalue, hds⟩ := Option.bind_eq_some_iff.1 h
    obtain ⟨n, hn, rfl⟩ := Option.map_eq_some_iff.1 hvalue
    cases ds with
    | nil =>
      have hcode : value * 16 + n = c.toNat := Option.some.inj hds
      have hstep : (Mode.code false read 1 value).step d = some (.line .basic (c :: read), []) := by
        simp [Mode.step, hn, hcode, charOfCode?_toNat, Mode.resume]
      exact scan_step hstep rest
    | cons d' ds =>
      have hstep : (Mode.code false read (ds.length + 2) value).step d =
          some (.code false read (ds.length + 1) (value * 16 + n), []) := by
        simp [Mode.step, hn]
      exact (scan_step hstep _).trans (ih (List.cons_ne_nil _ _) hds)

theorem step_escape_code {letter : Char} {n : Nat} (h : codeLength? letter = some n) (read : List Char) :
    (Mode.escape false read).step letter = some (.code false read n 0, []) := by
  unfold codeLength? at h
  split at h <;> cases h <;> rfl

/-- **A basic string is read as what it spells**, up to the quotation mark. -/
theorem Spelling.scan_eq {cs body : List Char} (h : Spelling cs body) (read rest : List Char) :
    scan (.line .basic read) (body ++ '"' :: rest) =
      (Token.quoted false (read.reverse ++ cs) :: ·) <$> scan .between rest := by
  induction h generalizing read with
  | nil =>
    rw [List.append_nil]
    exact scan_emit rfl rest
  | @plain c cs body hquote hslash hcontrol _ ih =>
    have hstep : (Mode.line .basic read).step c = some (.line .basic (c :: read), []) := by
      simp [Mode.step, Mode.inLine, Quote.char, hquote, hslash, hcontrol]
    rw [List.cons_append, scan_step hstep, ih, List.reverse_cons, List.append_assoc]
    rfl
  | @short letter c cs body hc _ ih =>
    have hstep : (Mode.escape false read).step letter = some (.line .basic (c :: read), []) := by
      simp [Mode.step, hc, Mode.resume]
    rw [List.cons_append, List.cons_append, scan_step (n := .escape false read) rfl, scan_step hstep, ih,
      List.reverse_cons, List.append_assoc]
    rfl
  | @code letter c digits cs body hletter hc _ ih =>
    have hne : digits ≠ [] := by
      rintro rfl
      unfold codeLength? at hletter
      split at hletter <;> cases hletter
    rw [List.append_assoc, List.cons_append, List.cons_append, scan_step (n := .escape false read) rfl,
      scan_step (step_escape_code hletter read), scan_code hne hc, ih, List.reverse_cons,
      List.append_assoc]
    rfl

theorem Spelling.head_ne {cs body : List Char} (h : Spelling cs body) : ∀ c ∈ body.head?, c ≠ '"' := by
  intro c hc
  cases h with
  | nil => cases hc
  | plain hquote =>
    cases hc
    exact hquote
  | short =>
    cases hc
    decide
  | code =>
    cases hc
    decide

/-- **A basic string is read from its first quotation mark on**, unless a third quotation mark makes a block of
it. -/
theorem scan_basic {cs body : List Char} (h : Spelling cs body) {rest : List Char}
    (hrest : ∀ c ∈ rest.head?, c ≠ '"') :
    scan .between ('"' :: body ++ '"' :: rest) = (Token.quoted false cs :: ·) <$> scan .between rest := by
  rw [List.cons_append, scan_step (n := .opening .basic) rfl]
  have hhead := h.head_ne
  cases body with
  | nil =>
    cases h
    have hopened : scan (.opened .basic) rest = (Token.quoted false [] :: ·) <$> scan .between rest :=
      scan_after rfl fun c hc => if_neg (hrest c hc)
    exact (scan_step (n := .opened .basic) rfl rest).trans hopened
  | cons c body =>
    have hopening : (Mode.opening .basic).step c = (Mode.line .basic []).step c := if_neg (hhead c rfl)
    calc scan (.opening .basic) (c :: body ++ '"' :: rest)
        = scan (.line .basic []) (c :: body ++ '"' :: rest) := by
          rw [List.cons_append, scan, scan, hopening]
      _ = (Token.quoted false cs :: ·) <$> scan .between rest := h.scan_eq [] rest

/-! ### Runs -/

theorem lt_of_isKeyChar {c : Char} (h : isKeyChar c = true) : c.toNat < 128 := by
  have hranges : (((decide ('A'.val ≤ c.val ∧ c.val ≤ 'Z'.val) || 'a'.val ≤ c.val && c.val ≤ 'z'.val) ||
      '0'.val ≤ c.val && c.val ≤ '9'.val) || c = '_' || c = '-') = true := h
  simp only [Bool.or_eq_true, Bool.and_eq_true, decide_eq_true_eq, UInt32.le_iff_toNat_le] at hranges
  have hval : c.toNat = c.val.toNat := rfl
  have hupper : 'Z'.val.toNat = 90 := rfl
  have hlower : 'z'.val.toNat = 122 := rfl
  have hdigit : '9'.val.toNat = 57 := rfl
  rcases hranges with (hrange | rfl) | rfl
  · omega
  · decide
  · decide

theorem isKeyChar_inert {c : Char} (h : isKeyChar c = true) :
    Mode.endsBare c = false ∧ isControl c = false := by
  have hascii : ∀ n < 128, isKeyChar (Char.ofNat n) = true →
      Mode.endsBare (Char.ofNat n) = false ∧ isControl (Char.ofNat n) = false := by
    decide
  have hc := hascii c.toNat (lt_of_isKeyChar h)
  rw [Char.ofNat_toNat] at hc
  exact hc h

/-- A run goes on with every character that continues it, and ends where another token begins. -/
theorem scan_run (run : List Char → Mode) (token : List Char → Token) {cs text : List Char}
    (hnext : ∀ c ∈ cs, ∀ read, (run read).step c = some (run (c :: read), []))
    (hend : ∀ read, (run read).finish = some [token read.reverse])
    (htext : ∀ c ∈ text.head?, ∀ read, (run read).step c = Mode.startAfter (token read.reverse) c)
    (read : List Char) :
    scan (run read) (cs ++ text) = (token (read.reverse ++ cs) :: ·) <$> scan .between text := by
  induction cs generalizing read with
  | nil =>
    rw [List.append_nil]
    exact scan_after (hend read) fun c hc => htext c hc read
  | cons c cs ih =>
    rw [List.cons_append, scan_step (hnext c List.mem_cons_self read),
      ih fun d hd => hnext d (List.mem_cons_of_mem c hd), List.reverse_cons, List.append_assoc]
    rfl

/-- **A run of key characters is read as one token.** -/
theorem scan_key {c : Char} {cs : List Char} (h : ∀ d ∈ c :: cs, isKeyChar d = true) {text : List Char}
    (htext : ∀ d ∈ text.head?, Mode.endsBare d = true) :
    scan .between (c :: cs ++ text) = (Token.bare (c :: cs) :: ·) <$> scan .between text := by
  have hstart : Mode.between.step c = some (.bare [c], []) := by
    obtain ⟨hbare, hcontrol⟩ := isKeyChar_inert (h c List.mem_cons_self)
    simp only [Mode.endsBare, Bool.or_eq_false_iff, decide_eq_false_iff_not, Option.isSome_eq_false_iff,
      Option.isNone_iff_eq_none] at hbare
    obtain ⟨⟨⟨⟨⟨hsign, hspace⟩, hcomment⟩, hreturn⟩, hbasic⟩, hliteral⟩ := hbare
    simp [Mode.step, Mode.start, Quote.char, hsign, hspace, hcomment, hreturn, hbasic, hliteral, hcontrol]
  have hnext : ∀ d ∈ cs, ∀ read, (Mode.bare read).step d = some (.bare (d :: read), []) := by
    intro d hd read
    obtain ⟨hbare, hcontrol⟩ := isKeyChar_inert (h d (List.mem_cons_of_mem c hd))
    simp [Mode.step, hbare, hcontrol]
  have hrun := scan_run .bare .bare hnext (fun _ => rfl) (fun d hd _ => if_pos (htext d hd)) [c]
  rw [List.cons_append, scan_step hstart, hrun]
  rfl

/-- **A run of spaces and tabulators is read as one token.** -/
theorem scan_spaces {c : Char} {cs : List Char} (h : ∀ d ∈ c :: cs, isSpace d = true) {text : List Char}
    (htext : ∀ d ∈ text.head?, isSpace d = false) :
    scan .between (c :: cs ++ text) = (Token.blank (c :: cs) :: ·) <$> scan .between text := by
  have hstart : Mode.between.step c = some (.blank [c], []) := by
    have hspace := h c List.mem_cons_self
    simp only [isSpace, Bool.or_eq_true, decide_eq_true_eq] at hspace
    rcases hspace with rfl | rfl <;> rfl
  have hnext : ∀ d ∈ cs, ∀ read, (Mode.blank read).step d = some (.blank (d :: read), []) := by
    intro d hd read
    simp [Mode.step, h d (List.mem_cons_of_mem c hd)]
  have hstop : ∀ d ∈ text.head?, ∀ read,
      (Mode.blank read).step d = Mode.startAfter (.blank read.reverse) d := by
    intro d hd read
    simp [Mode.step, htext d hd]
  have hrun := scan_run .blank .blank hnext (fun _ => rfl) hstop [c]
  rw [List.cons_append, scan_step hstart, hrun]
  rfl

/-! ### Tokens -/

/-- The text spells the tokens. A line may end with a line feed, which is a sign, or with a carriage return and a
line feed. -/
inductive Spells : List Char → List Token → Prop
  | done : Spells [] []
  | sign {c : Char} {t : Token} {text : List Char} {ts : List Token} (hc : sign? c = some t)
      (h : Spells text ts) : Spells (c :: text) (t :: ts)
  | lineEnd {text : List Char} {ts : List Token} (h : Spells text ts) :
      Spells ('\r' :: '\n' :: text) (.newline :: ts)
  | blank {c : Char} {cs text : List Char} {ts : List Token} (hcs : ∀ d ∈ c :: cs, isSpace d = true)
      (htext : ∀ d ∈ text.head?, isSpace d = false) (h : Spells text ts) :
      Spells (c :: cs ++ text) (.blank (c :: cs) :: ts)
  | key {c : Char} {cs text : List Char} {ts : List Token} (hcs : ∀ d ∈ c :: cs, isKeyChar d = true)
      (htext : ∀ d ∈ text.head?, Mode.endsBare d = true) (h : Spells text ts) :
      Spells (c :: cs ++ text) (.bare (c :: cs) :: ts)
  | basic {cs body text : List Char} {ts : List Token} (hcs : Spelling cs body)
      (htext : ∀ d ∈ text.head?, d ≠ '"') (h : Spells text ts) :
      Spells ('"' :: body ++ '"' :: text) (.quoted false cs :: ts)

/-- **The scanner finds the tokens that a text spells.** -/
theorem Spells.scan_eq {text : List Char} {ts : List Token} (h : Spells text ts) :
    scan .between text = some ts := by
  induction h with
  | done => rfl
  | @sign c t text ts hc _ ih =>
    have hstep : Mode.between.step c = some (.between, [t]) := by
      simp [Mode.step, Mode.start, hc]
    rw [scan_emit hstep, ih]
    rfl
  | lineEnd _ ih =>
    rw [scan_step (n := .lineEnd) rfl, scan_emit (n := .between) rfl, ih]
    rfl
  | blank hcs htext _ ih =>
    rw [scan_spaces hcs htext, ih]
    rfl
  | key hcs htext _ ih =>
    rw [scan_key hcs htext, ih]
    rfl
  | basic hcs htext _ ih =>
    rw [scan_basic hcs htext, ih]
    rfl

theorem Spells.tokens_eq {text : List Char} {ts : List Token} (h : Spells text ts) :
    tokens text = some (ts ++ [.newline]) := by
  rw [tokens, h.scan_eq]
  rfl

end StatusWait.Toml
