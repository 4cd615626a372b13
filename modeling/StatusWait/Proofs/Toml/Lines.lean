import StatusWait.Proofs.Toml.Spelling
import StatusWait.Json.Value
import StatusWait.Toml.Document

/-!
# TOML documents of plain lines

The simplest documents have one entry on a line: a bare key with a basic string or with an array of basic
strings. Such a document is read as its entries, in the order of its lines, however it is spelled.

## The model

A `Plain` value is a string or a list of strings. `Items l ts` says that the tokens `ts` are the rest of an
array of the strings `l`, `Plain.Tokens p ts` that they are the value `p`, and `Lines doc ts` that they are
lines with the entries `doc`. Blanks may stand between any two tokens; in an array lines may end as well, and a
comma may follow the last item. `IsDocument text doc` says that the text spells such lines, and `writeLines`
writes one text of them.

## What is proved

* `Items.statementsFrom_eq`, `Lines.statementsFrom_eq` — the reader finds the strings and the entries.
* `read_of_isDocument` — a document in which no key comes twice is read as its entries.
* `isDocument_writeLines` — all strings and all lists of strings can be written.
-/

namespace StatusWait.Toml

/-! ### What tokens say -/

/-- A string, or a list of strings. -/
inductive Plain
  /-- A string. -/
  | string (s : String)
  /-- A list of strings. -/
  | array (l : List String)

/-- The value of a document that is meant. -/
def Plain.value : Plain → Value
  | string s => .string s
  | array l => .array false (l.map .string)

/-- A token that only keeps others apart on a line. -/
def Token.isBlank : Token → Bool
  | .blank _ => true
  | _ => false

/-- A token that only keeps others apart inside an array, or entries apart. -/
def Token.isGap : Token → Bool
  | .blank _ | .newline => true
  | _ => false

/-- The rest of an array of strings: behind an item, or where one may begin. -/
inductive Items : (behind : Bool) → List String → List Token → Prop
  | gap {behind : Bool} {l : List String} {t : Token} {ts : List Token} (ht : t.isGap = true)
      (h : Items behind l ts) : Items behind l (t :: ts)
  | item (s : String) {l : List String} {ts : List Token} (h : Items true l ts) :
      Items false (s :: l) (.quoted false s.toList :: ts)
  | comma {l : List String} {ts : List Token} (h : Items false l ts) : Items true l (.comma :: ts)
  | close (behind : Bool) : Items behind [] [.closeBracket]

/-- The tokens of a plain value. -/
inductive Plain.Tokens : Plain → List Token → Prop
  | string (s : String) : Tokens (.string s) [.quoted false s.toList]
  | array {l : List String} {ts : List Token} (h : Items false l ts) :
      Tokens (.array l) (.openBracket :: ts)

/-- Lines with one entry each, and empty lines. -/
inductive Lines : List (String × Plain) → List Token → Prop
  | done : Lines [] []
  | gap {doc : List (String × Plain)} {t : Token} {ts : List Token} (ht : t.isGap = true)
      (h : Lines doc ts) : Lines doc (t :: ts)
  | entry {key : String} {p : Plain} {doc : List (String × Plain)}
      {before between value behind ts : List Token} (hkey : key.toList.all isKeyChar = true)
      (hbefore : before.all Token.isBlank = true) (hbetween : between.all Token.isBlank = true)
      (hvalue : p.Tokens value) (hbehind : behind.all Token.isBlank = true) (h : Lines doc ts) :
      Lines ((key, p) :: doc)
        (.bare key.toList :: before ++ .equals :: between ++ value ++ behind ++ .newline :: ts)

/-! ### What the reader finds -/

theorem statementsFrom_step {phase phase' : Phase} {stack stack' : List Frame} {t : Token}
    (h : step phase stack t = some (phase', stack', [])) (ts : List Token) :
    statementsFrom phase stack (t :: ts) = statementsFrom phase' stack' ts := by
  rw [statementsFrom, h]
  show ((statementsFrom phase' stack' ts).bind fun rest => some ([] ++ rest)) = _
  cases statementsFrom phase' stack' ts <;> rfl

theorem statementsFrom_emit {phase phase' : Phase} {stack stack' : List Frame} {t : Token} {s : Statement}
    (h : step phase stack t = some (phase', stack', [s])) (ts : List Token) :
    statementsFrom phase stack (t :: ts) = (s :: ·) <$> statementsFrom phase' stack' ts := by
  rw [statementsFrom, h]
  show ((statementsFrom phase' stack' ts).bind fun rest => some ([s] ++ rest)) = _
  cases statementsFrom phase' stack' ts <;> rfl

theorem statementsFrom_blanks {phase : Phase} {stack : List Frame}
    (h : ∀ read, step phase stack (.blank read) = some (phase, stack, [])) {blanks : List Token}
    (hblanks : blanks.all Token.isBlank = true) (ts : List Token) :
    statementsFrom phase stack (blanks ++ ts) = statementsFrom phase stack ts := by
  induction blanks with
  | nil => rfl
  | cons t blanks ih =>
    rw [List.all_cons, Bool.and_eq_true] at hblanks
    obtain ⟨ht, hblanks⟩ := hblanks
    cases t with
    | blank read => rw [List.cons_append, statementsFrom_step (h read), ih hblanks]
    | _ => cases ht

/-- The rest of an array that is the value of an entry. -/
theorem Items.statementsFrom_eq {behind : Bool} {l : List String} {ts : List Token}
    (h : Items behind l ts) (key : String) (acc : List Value) (rest : List Token) :
    statementsFrom (if behind then .more else .value) [.array acc, .entry [] key] (ts ++ rest) =
      (Statement.entry [] key (.array false (acc.reverse ++ l.map .string)) :: ·) <$>
        statementsFrom .lineEnd [] rest := by
  -- A frame keeps the items it has last first, so the induction is for any items read before.
  induction h generalizing acc with
  | @gap behind l t ts ht _ ih =>
    have hstep : step (if behind then .more else .value) [.array acc, .entry [] key] t =
        some (if behind then .more else .value, [.array acc, .entry [] key], []) := by
      cases t <;> cases ht <;> cases behind <;> rfl
    rw [List.cons_append, statementsFrom_step hstep, ih]
  | @item s l ts _ ih =>
    have hstep : step .value [.array acc, .entry [] key] (.quoted false s.toList) =
        some (.more, [.array (.string s :: acc), .entry [] key], []) := by
      show some (Phase.more, [Frame.array (.string (String.ofList s.toList) :: acc), .entry [] key], []) = _
      rw [String.ofList_toList]
    have hothers := ih (.string s :: acc)
    rw [List.reverse_cons, List.append_assoc] at hothers
    exact (statementsFrom_step hstep _).trans hothers
  | comma _ ih => exact (statementsFrom_step rfl _).trans (ih acc)
  | close behind =>
    rw [List.map_nil, List.append_nil]
    cases behind <;> exact statementsFrom_emit rfl rest

/-- A plain value that is the value of an entry. -/
theorem Plain.Tokens.statementsFrom_eq {p : Plain} {ts : List Token} (h : p.Tokens ts) (key : String)
    (rest : List Token) : statementsFrom .value [.entry [] key] (ts ++ rest) =
      (Statement.entry [] key p.value :: ·) <$> statementsFrom .lineEnd [] rest := by
  cases h with
  | string s =>
    have hstep : step .value [.entry [] key] (.quoted false s.toList) =
        some (.lineEnd, [], [.entry [] key (.string s)]) := by
      show some (Phase.lineEnd, [], [Statement.entry [] key (.string (String.ofList s.toList))]) = _
      rw [String.ofList_toList]
    exact statementsFrom_emit hstep rest
  | array h => exact (statementsFrom_step rfl _).trans (h.statementsFrom_eq key [] rest)

/-- The entry of a line, which is under no heading. -/
def Statement.ofLine (line : String × Plain) : Statement := .entry [] line.1 line.2.value

/-- **The reader finds the entries of the lines**, in their order. -/
theorem Lines.statementsFrom_eq {doc : List (String × Plain)} {ts : List Token} (h : Lines doc ts) :
    statementsFrom .statement [] ts = some (doc.map Statement.ofLine) := by
  induction h with
  | done => rfl
  | @gap doc t ts ht _ ih =>
    have hstep : step .statement [] t = some (.statement, [], []) := by
      cases t <;> cases ht <;> rfl
    exact (statementsFrom_step hstep ts).trans ih
  | @entry key p doc before between value behind ts hkey hbefore hbetween hvalue hbehind _ ih =>
    have hkeyNext : step .statement [] (.bare key.toList) = some (.keyNext key [], [], []) := by
      show (if key.toList.all isKeyChar = true then some (String.ofList key.toList) else none).map _ = _
      rw [if_pos hkey, String.ofList_toList]
      rfl
    have hequals : step (.keyNext key []) [] .equals = some (.value, [.entry [] key], []) := rfl
    simp only [List.cons_append, List.append_assoc]
    rw [statementsFrom_step hkeyNext, statementsFrom_blanks (fun _ => rfl) hbefore,
      statementsFrom_step hequals, statementsFrom_blanks (fun _ => rfl) hbetween,
      hvalue.statementsFrom_eq, statementsFrom_blanks (fun _ => rfl) hbehind, statementsFrom_step rfl, ih]
    rfl

/-! ### What becomes of the entries -/

/-- The entries of lines. -/
def entriesOf (doc : List (String × Plain)) : Entries := doc.map fun line => (line.1, line.2.value)

/-- Entries with new keys are put behind the ones before them. -/
theorem foldlM_ofLine {doc : List (String × Plain)} (hkeys : (doc.map Prod.fst).Nodup) {before : Entries}
    (hnew : ∀ line ∈ doc, before.get? line.1 = none) :
    (doc.map Statement.ofLine).foldlM Draft.add? ⟨before, []⟩ = some ⟨before ++ entriesOf doc, []⟩ := by
  induction doc generalizing before with
  | nil => exact congrArg (fun entries => some (Draft.mk entries [])) (List.append_nil before).symm
  | cons line doc ih =>
    obtain ⟨key, p⟩ := line
    rw [List.map_cons, List.nodup_cons] at hkeys
    have hadd : Draft.add? ⟨before, []⟩ (.ofLine (key, p)) = some ⟨before ++ [(key, p.value)], []⟩ := by
      simp [Draft.add?, Statement.ofLine, within, assign, Entries.add?, hnew (key, p) List.mem_cons_self]
    have hothers : ∀ other ∈ doc, Entries.get? (before ++ [(key, p.value)]) other.1 = none := by
      intro other hother
      have hne : other.1 ≠ key := fun heq => hkeys.1 (List.mem_map.2 ⟨other, hother, heq⟩)
      have hbefore : List.lookup other.1 before = none := hnew other (List.mem_cons_of_mem _ hother)
      rw [Entries.get?, List.lookup_append, hbefore, List.lookup_cons, beq_eq_false_iff_ne.2 hne]
      rfl
    rw [List.map_cons, List.foldlM_cons, hadd]
    show (doc.map Statement.ofLine).foldlM Draft.add? ⟨before ++ [(key, p.value)], []⟩ = _
    rw [ih hkeys.2 hothers, List.append_assoc]
    rfl

theorem Spells.dropMark_eq {text : List Char} {ts : List Token} (h : Spells text ts) :
    dropMark text = text := by
  have hhead : ∀ c ∈ text.head?, c ≠ mark := by
    intro c hc
    cases h with
    | done => cases hc
    | sign hsign =>
      cases hc
      rintro rfl
      cases hsign
    | lineEnd | basic =>
      cases hc
      decide
    | blank hcs =>
      cases hc
      rintro rfl
      exact absurd (hcs _ List.mem_cons_self) (by decide)
    | key hcs =>
      cases hc
      rintro rfl
      exact absurd (hcs _ List.mem_cons_self) (by decide)
  cases text with
  | nil => rfl
  | cons c cs => exact if_neg (hhead c rfl)

/-- The text is a document of plain lines with these entries. -/
def IsDocument (text : String) (doc : List (String × Plain)) : Prop :=
  ∃ ts, Spells text.toList ts ∧ Lines doc (ts ++ [.newline])

/-- **A document of plain lines is read as its entries**, if no key comes twice. -/
theorem read_of_isDocument {text : String} {doc : List (String × Plain)} (h : IsDocument text doc)
    (hkeys : (doc.map Prod.fst).Nodup) : read text = some (entriesOf doc) := by
  obtain ⟨ts, hspells, hlines⟩ := h
  have hstatements : statements (dropMark text.toList) = some (doc.map Statement.ofLine) := by
    rw [hspells.dropMark_eq, statements, hspells.tokens_eq]
    exact hlines.statementsFrom_eq
  have hdraft : (doc.map Statement.ofLine).foldlM Draft.add? Draft.empty = some ⟨entriesOf doc, []⟩ :=
    foldlM_ofLine hkeys fun _ _ => rfl
  rw [read, hstatements]
  show ((doc.map Statement.ofLine).foldlM Draft.add? Draft.empty).bind _ = _
  rw [hdraft]
  rfl

/-! ### Everything can be written -/

/-- A character as it is or, where it must not stand like that, by its code. -/
def writeChar (c : Char) : List Char :=
  if c = '"' ∨ c = '\\' ∨ isControl c then
    ['\\', 'u', '0', '0', Json.hexDigit (c.toNat / 16), Json.hexDigit (c.toNat % 16)]
  else [c]

/-- A string between quotation marks. -/
def writeString (s : String) : List Char := '"' :: s.toList.flatMap writeChar ++ ['"']

/-- The strings behind a string, and the end of the array. -/
def writeItems : List String → List Char
  | [] => [']']
  | s :: l => ',' :: writeString s ++ writeItems l

/-- A plain value. -/
def Plain.write : Plain → List Char
  | string s => writeString s
  | array [] => ['[', ']']
  | array (s :: l) => '[' :: writeString s ++ writeItems l

/-- Lines with one entry each. -/
def writeLines : List (String × Plain) → List Char
  | [] => []
  | (key, p) :: doc => key.toList ++ ' ' :: '=' :: ' ' :: p.write ++ '\n' :: writeLines doc

theorem Spells.space {text : List Char} {ts : List Token} (htext : ∀ c ∈ text.head?, isSpace c = false)
    (h : Spells text ts) : Spells (' ' :: text) (.blank [' '] :: ts) := by
  show Spells ([' '] ++ text) _
  exact .blank (by simp [isSpace]) htext h

theorem Spells.word {key : String} (hne : key ≠ "") (hkey : key.toList.all isKeyChar = true)
    {text : List Char} {ts : List Token} (htext : ∀ c ∈ text.head?, Mode.endsBare c = true)
    (h : Spells text ts) : Spells (key.toList ++ text) (.bare key.toList :: ts) := by
  cases hcs : key.toList with
  | nil => exact absurd (String.toList_eq_nil_iff.1 hcs) hne
  | cons c cs =>
    rw [hcs, List.all_eq_true] at hkey
    exact .key hkey htext h

theorem spelling_writeChar (cs : List Char) : Spelling cs (cs.flatMap writeChar) := by
  induction cs with
  | nil => exact .nil
  | cons c cs ih =>
    rw [List.flatMap_cons, writeChar]
    split
    · next h =>
      have hsmall : c.toNat < 128 := by
        rcases h with rfl | rfl | h
        · decide
        · decide
        · simp only [isControl, Bool.or_eq_true, Bool.and_eq_true, decide_eq_true_eq] at h
          omega
      have hdigit : ∀ d < 16, hexValue? (Json.hexDigit d) = some d := by decide
      have hcode : ['0', '0', Json.hexDigit (c.toNat / 16), Json.hexDigit (c.toNat % 16)].foldlM addDigit? 0 =
          some c.toNat := by
        have hzero (n : Nat) : addDigit? n '0' = some (n * 16 + 0) := rfl
        have hhigh (n : Nat) : addDigit? n (Json.hexDigit (c.toNat / 16)) = some (n * 16 + c.toNat / 16) := by
          rw [addDigit?, hdigit _ (by omega)]
          rfl
        have hlow (n : Nat) : addDigit? n (Json.hexDigit (c.toNat % 16)) = some (n * 16 + c.toNat % 16) := by
          rw [addDigit?, hdigit _ (by omega)]
          rfl
        simp [List.foldlM_cons, hzero, hhigh, hlow]
        omega
      exact .code rfl hcode ih
    · next h =>
      rw [not_or, not_or, Bool.not_eq_true] at h
      exact .plain h.1 h.2.1 h.2.2 ih

theorem Spells.writeString (s : String) {text : List Char} {ts : List Token}
    (htext : ∀ c ∈ text.head?, c ≠ '"') (h : Spells text ts) :
    Spells (Toml.writeString s ++ text) (.quoted false s.toList :: ts) := by
  have hbasic := Spells.basic (spelling_writeChar s.toList) htext h
  rw [Toml.writeString, List.append_assoc]
  exact hbasic

theorem head_writeItems_ne (l : List String) (text : List Char) :
    ∀ c ∈ (writeItems l ++ text).head?, c ≠ '"' := by
  intro c hc
  cases l with
  | nil | cons =>
    cases hc
    decide

theorem Spells.writeItems (l : List String) {text : List Char} {us : List Token}
    (h : Spells text us) :
    ∃ ts, Items true l ts ∧ Spells (Toml.writeItems l ++ text) (ts ++ us) := by
  induction l with
  | nil => exact ⟨[.closeBracket], .close true, .sign rfl h⟩
  | cons s l ih =>
    obtain ⟨ts, hitems, hspells⟩ := ih
    refine ⟨.comma :: .quoted false s.toList :: ts, .comma (.item s hitems), ?_⟩
    rw [Toml.writeItems, List.append_assoc]
    exact .sign rfl (.writeString s (head_writeItems_ne l text) hspells)

theorem Spells.write (p : Plain) {text : List Char} {us : List Token}
    (htext : ∀ c ∈ text.head?, c ≠ '"') (h : Spells text us) :
    ∃ ts, p.Tokens ts ∧ Spells (p.write ++ text) (ts ++ us) := by
  match p with
  | .string s => exact ⟨_, .string s, .writeString s htext h⟩
  | .array [] => exact ⟨_, .array (.close false), .sign rfl (.sign rfl h)⟩
  | .array (s :: l) =>
    obtain ⟨ts, hitems, hspells⟩ := h.writeItems l
    refine ⟨_, .array (.item s hitems), ?_⟩
    rw [Plain.write, List.append_assoc]
    exact .sign rfl (.writeString s (head_writeItems_ne l text) hspells)

theorem head_write_not_space (p : Plain) (text : List Char) :
    ∀ c ∈ (p.write ++ text).head?, isSpace c = false := by
  intro c hc
  match p with
  | .string _ | .array [] | .array (_ :: _) =>
    cases hc
    decide

theorem Spells.writeLines {doc : List (String × Plain)}
    (hkeys : ∀ line ∈ doc, line.1 ≠ "" ∧ line.1.toList.all isKeyChar = true) :
    ∃ ts, Lines doc (ts ++ [.newline]) ∧ Spells (Toml.writeLines doc) ts := by
  induction doc with
  | nil => exact ⟨[], .gap rfl .done, .done⟩
  | cons line doc ih =>
    obtain ⟨key, p⟩ := line
    obtain ⟨ts, hlines, hspells⟩ := ih fun line hline => hkeys line (List.mem_cons_of_mem _ hline)
    obtain ⟨hne, hkey⟩ := hkeys (key, p) List.mem_cons_self
    have hnewline : Spells ('\n' :: Toml.writeLines doc) (.newline :: ts) := .sign rfl hspells
    obtain ⟨value, hvalue, hwrite⟩ := hnewline.write p (by simp)
    have hequals : Spells (' ' :: '=' :: ' ' :: (p.write ++ '\n' :: Toml.writeLines doc))
        (.blank [' '] :: .equals :: .blank [' '] :: (value ++ .newline :: ts)) :=
      .space (by simp [isSpace]) (.sign rfl (.space (head_write_not_space p _) hwrite))
    have hentry : Lines ((key, p) :: doc) (.bare key.toList :: [.blank [' ']] ++ .equals :: [.blank [' ']] ++
        value ++ [] ++ .newline :: (ts ++ [.newline])) := .entry hkey rfl rfl hvalue rfl hlines
    refine ⟨.bare key.toList :: .blank [' '] :: .equals :: .blank [' '] :: (value ++ .newline :: ts), ?_, ?_⟩
    · simpa using hentry
    · have htext : Toml.writeLines ((key, p) :: doc) =
          key.toList ++ ' ' :: '=' :: ' ' :: (p.write ++ '\n' :: Toml.writeLines doc) := by
        simp [Toml.writeLines]
      rw [htext]
      exact hequals.word hne hkey (by simp [Mode.endsBare, isSpace])

/-- **All strings and all lists of strings can be written**, under keys that need no quotes. -/
theorem isDocument_writeLines {doc : List (String × Plain)}
    (hkeys : ∀ line ∈ doc, line.1 ≠ "" ∧ line.1.toList.all isKeyChar = true) :
    IsDocument (String.ofList (writeLines doc)) doc := by
  obtain ⟨ts, hlines, hspells⟩ := Spells.writeLines hkeys
  refine ⟨ts, ?_, hlines⟩
  rw [String.toList_ofList]
  exact hspells

end StatusWait.Toml
