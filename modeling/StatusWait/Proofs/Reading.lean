import Mathlib
import StatusWait.Proofs.RoundTrip
import StatusWait.Status.Reading

/-!
# The texts that name a status

People write the name of a status as they please, and a provider writes it in one way. This module says which
texts are taken for which status, and that all readings of a text agree where they should.

## The model

`Text.Dresses plain text` says that `text` is `plain` with any of its ASCII letters in the other case and with
white space at its ends. A text names a status if it dresses the spelling of the status: this is the whole
grammar. `Status.normal` undresses a text: it takes off the white space and puts the letters in capitals, as all
spellings are. `Status.quoted` is the JSON text of a string.

## What is proved

* `Text.upper_trim_of_dresses` — a text and what it dresses have the same normal form.
* `Status.dresses_wire_iff` — a text dresses a spelling exactly when the spelling is its normal form.
* `Status.readStrict_eq`, `Status.readLenient_eq`, `Status.readJson?_quoted` — the strict and the lenient reading
  look the normal form up among the spellings, and JSON the text itself.
* `Status.readings_agree` — the grammar, and how the readings go together.
-/

namespace StatusWait

namespace Text

/-! ### Letters -/

/-- Two characters that are the same but for the case of ASCII letters. -/
def SameLetter (c d : Char) : Prop := c = d ∨ c = d.toLower ∨ c = d.toUpper

theorem sameLetter_iff {c d : Char} : SameLetter c d ↔ c.toUpper = d.toUpper := by
  constructor
  · rintro (rfl | rfl | rfl)
    · rfl
    · exact d.toUpper_toLower_eq_toUpper
    · exact d.toUpper_toUpper_eq_toUpper
  · intro h
    by_cases hc : c.isLower = true
    · have hlower : c.toLower = d.toLower := by
        rw [← c.toLower_toUpper_eq_toLower, h, d.toLower_toUpper_eq_toLower]
      rw [Char.toLower_eq_of_not_isUpper (Char.not_isUpper_of_isLower hc)] at hlower
      exact .inr (.inl hlower)
    · rw [Char.toUpper_eq_of_not_isLower hc] at h
      exact .inr (.inr h)

theorem forall₂_sameLetter_iff {a b : List Char} : List.Forall₂ SameLetter a b ↔ upper a = upper b := by
  constructor
  · intro h
    induction h with
    | nil => rfl
    | cons hc _ ih => exact congrArg₂ List.cons (sameLetter_iff.1 hc) ih
  · intro h
    induction a generalizing b with
    | nil =>
      obtain rfl : b = [] := List.map_eq_nil_iff.1 h.symm
      exact .nil
    | cons c a ih =>
      cases b with
      | nil => cases h
      | cons d b =>
        obtain ⟨hc, ha⟩ := List.cons.inj h
        exact .cons (sameLetter_iff.2 hc) (ih ha)

theorem isBlank_of_isAlpha {c : Char} (h : c.isAlpha = true) : isBlank c = false := by
  have hrange : 65 ≤ c.toNat ∧ c.toNat ≤ 90 ∨ 97 ≤ c.toNat ∧ c.toNat ≤ 122 := by
    simpa [Char.isAlpha, Char.isUpper, Char.isLower, UInt32.le_iff_toNat_le] using h
  simp only [isBlank, blankRanges, List.any_eq_false, List.mem_cons, List.not_mem_nil, or_false]
  rintro r hr
  rcases hr with rfl | rfl | rfl | rfl | rfl | rfl | rfl | rfl | rfl | rfl <;> simp <;> omega

/-- White space stays white space in capitals, and nothing becomes white space. -/
theorem isBlank_toUpper (c : Char) : isBlank c.toUpper = isBlank c := by
  by_cases hc : c.isLower = true
  · have hletter : c.isAlpha = true := by simp [Char.isAlpha, hc]
    rw [isBlank_of_isAlpha hletter, isBlank_of_isAlpha (c.isAlpha_toUpper_eq_isAlpha.trans hletter)]
  · rw [Char.toUpper_eq_of_not_isLower hc]

/-! ### White space at the ends -/

section

variable {before cs after : List Char}

theorem trim_append (hb : ∀ c ∈ before, isBlank c = true) (ha : ∀ c ∈ after, isBlank c = true) :
    trim (before ++ cs ++ after) = trim cs := by
  have hstart : trimStart (before ++ cs ++ after) = trimStart (cs ++ after) := by
    rw [List.append_assoc]
    exact List.dropWhile_append_of_pos hb
  have hend (ds : List Char) : trimEnd (ds ++ after) = trimEnd ds := by
    rw [trimEnd, List.reverse_append, List.dropWhile_append_of_pos]
    · rfl
    · intro c hc
      exact ha c (List.mem_reverse.1 hc)
  rw [trim, hstart, trim, trimStart, List.dropWhile_append]
  split
  · next h =>
    -- Nothing but white space is there, so it is taken off from the front.
    rw [List.isEmpty_iff] at h
    rw [List.dropWhile_eq_nil_iff.2 ha, trimStart, h]
  · exact hend _

theorem trim_of_not_isBlank (h : ∀ c ∈ cs, isBlank c = false) : trim cs = cs := by
  have hstart {ds : List Char} (hd : ∀ c ∈ ds, isBlank c = false) : ds.dropWhile isBlank = ds := by
    cases ds with
    | nil => rfl
    | cons c ds => exact List.dropWhile_cons_of_neg (by simp [hd c List.mem_cons_self])
  rw [trim, trimStart, hstart h, trimEnd, hstart fun c hc => h c (List.mem_reverse.1 hc), List.reverse_reverse]

/-- What is taken off a text is white space at its ends. -/
theorem exists_trim (cs : List Char) : ∃ before after, cs = before ++ trim cs ++ after ∧
    (∀ c ∈ before, isBlank c = true) ∧ ∀ c ∈ after, isBlank c = true := by
  refine ⟨cs.takeWhile isBlank, (trimStart cs).rtakeWhile isBlank, ?_, fun c hc => ?_, fun c hc => ?_⟩
  · have hend : trim cs ++ (trimStart cs).rtakeWhile isBlank = trimStart cs :=
      List.rdropWhile_append_rtakeWhile
    rw [List.append_assoc, hend]
    exact List.takeWhile_append_dropWhile.symm
  · exact List.mem_takeWhile_imp hc
  · exact List.mem_rtakeWhile_imp hc

theorem upper_trim (cs : List Char) : upper (trim cs) = trim (upper cs) := by
  have hblank : isBlank ∘ Char.toUpper = isBlank := funext isBlank_toUpper
  simp only [trim, trimEnd, trimStart, upper, List.dropWhile_map, ← List.map_reverse, hblank]

end

/-! ### Dressing -/

/-- The text is the plain one, with ASCII letters in any case and with white space at its ends. -/
inductive Dresses (plain text : List Char) : Prop
  /-- The white space before and after, and what is between. -/
  | intro {before core after : List Char} (htext : text = before ++ core ++ after)
      (hb : ∀ c ∈ before, isBlank c = true) (hc : List.Forall₂ SameLetter core plain)
      (ha : ∀ c ∈ after, isBlank c = true)

variable {plain text : List Char}

theorem upper_trim_of_dresses (h : Dresses plain text) : upper (trim text) = upper (trim plain) := by
  obtain ⟨rfl, hb, hc, ha⟩ := h
  rw [trim_append hb ha, upper_trim, upper_trim, forall₂_sameLetter_iff.1 hc]

theorem dresses_of_upper_trim (h : upper (trim text) = upper plain) : Dresses plain text := by
  obtain ⟨before, after, htext, hb, ha⟩ := exists_trim text
  exact ⟨htext, hb, forall₂_sameLetter_iff.2 h, ha⟩

end Text

namespace Status

variable {σ : Type} [Status σ]

/-- A text in the form in which statuses are spelled: in capitals, without white space at its ends. -/
def normal (text : String) : String := String.ofList (Text.upper (Text.trim text.toList))

/-- The JSON text of a string. -/
def quoted (text : String) : String := (Json.Value.string (.ofString text)).toText

/-! ### The normal form -/

theorem trim_wire (s : σ) : Text.trim (wire s).toList = (wire s).toList := by
  apply Text.trim_of_not_isBlank
  intro c hc
  have hupper : c.isUpper = true := List.all_eq_true.1 (wire_upper s) c hc
  exact Text.isBlank_of_isAlpha (by simp [Char.isAlpha, hupper])

@[simp] theorem normal_wire (s : σ) : normal (wire s) = wire s := by
  rw [normal, trim_wire, upper_wire, String.ofList_toList]

theorem names_iff {text : String} {s : σ} : Names text s ↔ wire s = normal text := by
  rw [Names, Text.Alike, upper_wire, normal]
  constructor
  · intro h
    rw [← h, String.ofList_toList]
  · intro h
    rw [h, String.toList_ofList]

/-- **A text dresses a spelling exactly when the spelling is its normal form.** -/
theorem dresses_wire_iff {text : String} {s : σ} :
    Text.Dresses (wire s).toList text.toList ↔ wire s = normal text := by
  rw [← names_iff, Names, Text.Alike]
  constructor
  · intro h
    rw [Text.upper_trim_of_dresses h, trim_wire]
  · intro h
    exact Text.dresses_of_upper_trim h.symm

theorem normal_of_dresses {plain text : String} (h : Text.Dresses plain.toList text.toList) :
    normal text = normal plain := by
  rw [normal, normal, Text.upper_trim_of_dresses h]

/-! ### The readings -/

theorem readStrict_eq (text : String) : (readStrict text : Except SetupError σ) =
    match (named? (normal text) : Option σ) with
    | some s => .ok s
    | none => .error (.unknownStatus text) := by
  have hfind : (all (σ := σ)).find? (fun s => decide (Names text s)) = named? (normal text) := by
    refine List.find?_congr fun s _ => ?_
    rw [Bool.eq_iff_iff, decide_eq_true_iff, beq_iff_eq]
    exact names_iff
  cases hnamed : (named? (normal text) : Option σ) with
  | none => simp only [readStrict, hfind, hnamed]
  | some s => simp only [readStrict, hfind, hnamed]

theorem readStrict_eq_ok_iff {text : String} {s : σ} : readStrict text = .ok s ↔ wire s = normal text := by
  rw [readStrict_eq, ← named?_eq_some_iff]
  cases (named? (normal text) : Option σ) <;> simp

/-- The strict reading depends on the normal form, but for the text that an error quotes. -/
theorem toOption_readStrict (text : String) :
    (readStrict text : Except SetupError σ).toOption = named? (normal text) := by
  rw [readStrict_eq]
  cases (named? (normal text) : Option σ) <;> rfl

/-- The lenient reading gives what the strict one gives, and the catch-all with an event where that gives
nothing. -/
theorem readLenient_eq (text : String) : (readLenient text : σ × List (Event σ)) =
    match (named? (normal text) : Option σ) with
    | some s => (s, [])
    | none => (unrecognized, [.unknownStatus text]) := by
  rw [readLenient, readStrict_eq]
  cases (named? (normal text) : Option σ) <;> rfl

theorem readLenient_fst (text : String) : (readLenient text : σ × List (Event σ)).1 = ofWire (normal text) := by
  rw [readLenient_eq, ofWire]
  cases (named? (normal text) : Option σ) <;> rfl

theorem readJson?_quoted (text : String) : (readJson? (quoted text) : Option σ) = some (ofWire text) := by
  have hread : Json.read (quoted text) = some (Json.Value.string (.ofString text)).reread :=
    Json.read_toText (.string (Json.Text.readable_ofString text))
  rw [readJson?, hread]
  show ofJson? (Json.Value.string (.ofString text)).reread = _
  rw [ofJson?_reread, ofJson?, Json.caseName?_string]
  rfl

/-- **The readings of a text agree.** The strict reading takes a text for a status exactly if the text dresses the
spelling, which it does for one status at most, and refuses every other text with an error that quotes it as it
was given. The lenient reading takes those texts for the same statuses, and every other one for the catch-all, with
one event of the lowest level that carries the text as it was given. It takes a text for what JSON decodes from the
normal form; and whatever status but the catch-all JSON decodes from the text itself, the strict reading takes the
text for it. So both readings give the same for texts that differ in their dress, and give back every status from
its spelling. -/
theorem readings_agree (text : String) :
    (∀ s : σ, readStrict text = .ok s ↔ Text.Dresses (wire s).toList text.toList) ∧
    (∀ s t : σ, Text.Dresses (wire s).toList text.toList → Text.Dresses (wire t).toList text.toList →
      s = t) ∧
    ((∀ s : σ, ¬ Text.Dresses (wire s).toList text.toList) →
      (readStrict text : Except SetupError σ) = .error (.unknownStatus text)) ∧
    (∀ s : σ, readStrict text = .ok s → readLenient text = (s, [])) ∧
    ((∀ s : σ, readStrict text ≠ .ok s) → ∃ event : Event σ, readLenient text = (unrecognized, [event]) ∧
      event.level = .debug ∧ event.fields = [("value", text)]) ∧
    readJson? (quoted (normal text)) = some (readLenient text : σ × List (Event σ)).1 ∧
    (∀ s : σ, readJson? (quoted text) = some s → s ≠ unrecognized → readStrict text = .ok s) ∧
    (∀ text', Text.Dresses text.toList text'.toList →
      (readStrict text' : Except SetupError σ).toOption = (readStrict text : Except SetupError σ).toOption ∧
      (readLenient text' : σ × List (Event σ)).1 = (readLenient text : σ × List (Event σ)).1) ∧
    ∀ s : σ, readStrict (wire s) = .ok s ∧ readLenient (wire s) = (s, []) := by
  have hstrict (s : σ) : readStrict text = .ok s ↔ Text.Dresses (wire s).toList text.toList := by
    rw [readStrict_eq_ok_iff, dresses_wire_iff]
  refine ⟨hstrict, fun s t hs ht => ?_, fun h => ?_, fun s hs => ?_, fun h => ?_, ?_, fun s hs hne => ?_,
    fun text' h => ?_, fun s => ?_⟩
  · exact wire_injective ((dresses_wire_iff.1 hs).trans (dresses_wire_iff.1 ht).symm)
  · have hnone : (named? (normal text) : Option σ) = none := by
      refine Option.eq_none_iff_forall_ne_some.2 fun s hs => h s ?_
      exact dresses_wire_iff.2 (named?_eq_some_iff.1 hs)
    rw [readStrict_eq, hnone]
  · rw [readLenient_eq, named?_eq_some_iff.2 (readStrict_eq_ok_iff.1 hs)]
  · have hnone : (named? (normal text) : Option σ) = none := by
      refine Option.eq_none_iff_forall_ne_some.2 fun s hs => h s ?_
      exact readStrict_eq_ok_iff.2 (named?_eq_some_iff.1 hs)
    exact ⟨.unknownStatus text, by rw [readLenient_eq, hnone], rfl, rfl⟩
  · rw [readJson?_quoted, readLenient_fst]
  · rw [readJson?_quoted, Option.some.injEq] at hs
    have hnamed : (named? text : Option σ) = some s := by
      cases ht : (named? text : Option σ) with
      | none =>
        rw [ofWire, ht] at hs
        exact absurd hs.symm hne
      | some t =>
        rw [ofWire, ht] at hs
        exact congrArg some hs
    obtain rfl : wire s = text := named?_eq_some_iff.1 hnamed
    rw [readStrict_eq_ok_iff, normal_wire]
  · rw [toOption_readStrict, toOption_readStrict, readLenient_fst, readLenient_fst, normal_of_dresses h]
    exact ⟨rfl, rfl⟩
  · have hs : named? (normal (wire s)) = some s := named?_eq_some_iff.2 (normal_wire s).symm
    rw [readStrict_eq, readLenient_eq, hs]
    exact ⟨rfl, rfl⟩

/-- A text in mixed case between an ideographic space and a no-break space names a status, and so does the same
text in capitals with more white space around it. A text with a long s, whose capital is an S elsewhere, names none. -/
theorem readings_agree_of_wide_spaces :
    let text := "\u3000suspEnded\u00A0"
    let text' := "\n\u3000SUSPENDED\u00A0\u3000"
    let long := "\u017Fuspended"
    (Text.Dresses (wire NodeStatus.suspended).toList text.toList ∧
      readStrict text = .ok NodeStatus.suspended ∧ readLenient text = (NodeStatus.suspended, [])) ∧
    (Text.Dresses text.toList text'.toList ∧
      (readLenient text' : NodeStatus × List (Event NodeStatus)).1 = .suspended) ∧
    ∃ event : Event NodeStatus, readLenient long = (.unrecognized, [event]) ∧ event.level = .debug ∧
      event.fields = [("value", long)] := by
  intro text text' long
  have hdressed : Text.Dresses (wire NodeStatus.suspended).toList text.toList :=
    Text.dresses_of_upper_trim (by decide +kernel)
  have hother : Text.Dresses text.toList text'.toList :=
    ⟨(show text'.toList = ['\n'] ++ "\u3000SUSPENDED\u00A0".toList ++ ['\u3000'] by decide +kernel),
      List.all_eq_true.1 (by decide +kernel), Text.forall₂_sameLetter_iff.2 (by decide +kernel),
      List.all_eq_true.1 (by decide +kernel)⟩
  have hnone : ∀ s : NodeStatus, readStrict long ≠ .ok s := by
    intro s
    cases s <;> decide +kernel
  obtain ⟨hstrict, -, -, hlenient, -, -, -, hdress, -⟩ := readings_agree (σ := NodeStatus) text
  obtain ⟨-, -, -, -, hunknown, -⟩ := readings_agree (σ := NodeStatus) long
  have hread : readStrict text = .ok NodeStatus.suspended := (hstrict .suspended).2 hdressed
  refine ⟨⟨hdressed, hread, hlenient .suspended hread⟩, ⟨hother, ?_⟩, hunknown hnone⟩
  rw [(hdress text' hother).2, hlenient .suspended hread]

end Status

end StatusWait
