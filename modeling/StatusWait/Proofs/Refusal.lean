import Mathlib.Data.List.Forall2
import StatusWait.Proofs.Documents
import StatusWait.Proofs.Planning

/-!
# Why there is no configuration

A configuration may fail to come about: the document is no TOML or not of the right shape, the file is no text,
or what the caller states contradicts itself. This module says which error the caller gets in which case, and
that it is never one that leaves open how a resource is.

## The model

`Toml.States text t ws` says that a text is a TOML document of the right shape, in which the target is spelled
`t` and the invalid statuses `ws`. Its shape is given by `Toml.Shaped`, and the ways to write a status by
`Value.Names`. `Toml.markBytes` is the byte order mark as a file holds it.

The words in which a text is refused as unparsable are the parser's own, and `explain` may be any. They may quote
the text, with a byte order mark in it. `SameButWords` says of two results that they differ in these words at most.

A `Failure` is an error in the form in which the caller gets it, one of the setup or one of polling, and
`Origin.failure?` the failure of each way to a configuration. `Failure.passedOn` wraps an error of the setup in one
of polling.

## What is proved

* `Declaration.ofToml?_eq_some_iff` — a document declares what it is shaped to state.
* `Config.readToml_of_states`, `Config.readToml_eq_error_iff` — what comes of a text, and why none does.
* `Config.ofFile_toUTF8`, `Config.ofFile_of_not_toUTF8` — what comes of a file.
* `Config.readToml_mark`, `Config.ofFile_mark` — what a byte order mark in front changes.
* `Config.refusals_are_classified` — which error there is in which case, and what it is taken for.
-/

namespace StatusWait

/-! ### The shape of a document -/

namespace Toml

/-- The ways to write the spelling of a status: a string, or a table in which the spelling is the one key and has
nothing under it. -/
inductive Value.Names : Value → String → Prop
  /-- A string. -/
  | string (w : String) : Names (.string w) w
  /-- A key with an empty table. -/
  | table (kind kind' : TableKind) (w : String) : Names (.table kind [(w, .table kind' [])]) w
  /-- A key with an empty array. -/
  | array (kind : TableKind) (growing : Bool) (w : String) : Names (.table kind [(w, .array growing [])]) w

/-- Entries of the right shape: they hold a target, and a list of invalid statuses or none. -/
structure Shaped (entries : Entries) (t : String) (ws : List String) : Prop where
  /-- The target is there. -/
  target : ∃ v, entries.get? "target" = some v ∧ v.Names t
  /-- The invalid statuses are an array, or missing. -/
  invalid : (entries.get? "invalid" = none ∧ ws = []) ∨
    ∃ growing items, entries.get? "invalid" = some (.array growing items) ∧
      List.Forall₂ Value.Names items ws

/-- A text that is a TOML document of the right shape, with the spellings of its target and its invalid
statuses. -/
def States (text t : String) (ws : List String) : Prop :=
  ∃ entries, read text = some entries ∧ Shaped entries t ws

end Toml

namespace Declaration

variable {σ : Type} [Status σ]

theorem tomlStatus?_eq_some_iff {v : Toml.Value} {s : σ} :
    tomlStatus? v = some s ↔ ∃ w, v.Names w ∧ Status.ofWire w = s := by
  constructor
  · intro h
    unfold tomlStatus? at h
    split at h
    · next w => exact ⟨w, .string w, Option.some.inj h⟩
    · next w _ => exact ⟨w, .table _ _ w, Option.some.inj h⟩
    · next w _ => exact ⟨w, .array _ _ w, Option.some.inj h⟩
    · cases h
  · rintro ⟨w, hw, rfl⟩
    cases hw <;> rfl

theorem mapM_tomlStatus?_eq_some_iff {items : List Toml.Value} {l : List σ} :
    items.mapM tomlStatus? = some l ↔
      ∃ ws, List.Forall₂ Toml.Value.Names items ws ∧ ws.map Status.ofWire = l := by
  induction items generalizing l with
  | nil =>
    constructor
    · intro h
      cases h
      exact ⟨[], .nil, rfl⟩
    · rintro ⟨ws, hws, rfl⟩
      cases hws
      rfl
  | cons v items ih =>
    rw [List.mapM_cons]
    constructor
    · intro h
      obtain ⟨s, hs, h⟩ := Option.bind_eq_some_iff.1 h
      obtain ⟨ss, hss, h⟩ := Option.bind_eq_some_iff.1 h
      obtain ⟨w, hw, rfl⟩ := tomlStatus?_eq_some_iff.1 hs
      obtain ⟨ws, hws, rfl⟩ := ih.1 hss
      exact ⟨w :: ws, .cons hw hws, Option.some.inj h⟩
    · rintro ⟨ws, hws, rfl⟩
      cases hws with
      | cons hw hws =>
        rw [tomlStatus?_eq_some_iff.2 ⟨_, hw, rfl⟩, ih.2 ⟨_, hws, rfl⟩]
        rfl

/-- **Entries declare what they are shaped to state.** -/
theorem ofToml?_eq_some_iff {entries : Toml.Entries} {d : Declaration σ} :
    ofToml? entries = some d ↔ ∃ t ws, Toml.Shaped entries t ws ∧ ofWires t ws = d := by
  constructor
  · intro h
    obtain ⟨v, hv, h⟩ := Option.bind_eq_some_iff.1 h
    obtain ⟨s, hs, h⟩ := Option.bind_eq_some_iff.1 h
    obtain ⟨t, ht, rfl⟩ := tomlStatus?_eq_some_iff.1 hs
    cases hi : entries.get? "invalid" with
    | none =>
      rw [hi] at h
      exact ⟨t, [], ⟨⟨v, hv, ht⟩, .inl ⟨hi, rfl⟩⟩, Option.some.inj h⟩
    | some v' =>
      rw [hi] at h
      obtain ⟨l, hl, h⟩ := Option.bind_eq_some_iff.1 h
      cases v' with
      | array growing items =>
        obtain ⟨ws, hws, rfl⟩ := mapM_tomlStatus?_eq_some_iff.1 hl
        exact ⟨t, ws, ⟨⟨v, hv, ht⟩, .inr ⟨growing, items, hi, hws⟩⟩, Option.some.inj h⟩
      | string | scalar | table => cases hl
  · rintro ⟨t, ws, ⟨⟨v, hv, ht⟩, hinvalid⟩, rfl⟩
    have hs : tomlStatus? v = some (Status.ofWire t : σ) := tomlStatus?_eq_some_iff.2 ⟨t, ht, rfl⟩
    rcases hinvalid with ⟨hi, rfl⟩ | ⟨growing, items, hi, hws⟩
    · simp only [ofToml?, hv, hi, Option.bind_eq_bind, Option.bind_some, hs]
      rfl
    · have hl : tomlStatuses? (.array growing items) = some (ws.map (Status.ofWire : String → σ)) :=
        mapM_tomlStatus?_eq_some_iff.2 ⟨ws, hws, rfl⟩
      simp only [ofToml?, hv, hi, Option.bind_eq_bind, Option.bind_some, hs, hl]
      rfl

end Declaration

/-! ### Bytes -/

theorem fromUTF8?_eq_some_iff {content : ByteArray} {text : String} :
    String.fromUTF8? content = some text ↔ text.toUTF8 = content := by
  unfold String.fromUTF8?
  split
  · next h =>
    constructor
    · intro htext
      cases htext
      rfl
    · rintro rfl
      rfl
  · next h =>
    constructor
    · exact nofun
    · rintro rfl
      exact absurd text.isValidUTF8 h

theorem fromUTF8?_eq_none_iff {content : ByteArray} :
    String.fromUTF8? content = none ↔ ¬ ∃ text : String, text.toUTF8 = content := by
  rw [Option.eq_none_iff_forall_ne_some, not_exists]
  exact forall_congr' fun text => not_congr fromUTF8?_eq_some_iff

namespace Toml

/-- The byte order mark in UTF-8. -/
def markBytes : ByteArray := ⟨#[0xEF, 0xBB, 0xBF]⟩

theorem utf8Encode_mark : [mark].utf8Encode = markBytes := by decide

theorem toUTF8_mark_append (text : String) :
    (String.singleton mark ++ text).toUTF8 = markBytes ++ text.toUTF8 := by
  show (String.singleton mark ++ text).toByteArray = markBytes ++ text.toByteArray
  rw [String.toByteArray_append, String.toByteArray_singleton, utf8Encode_mark]

/-- Behind the byte order mark, bytes are decoded as they are without it. -/
theorem fromUTF8?_mark_append (content : ByteArray) : String.fromUTF8? (markBytes ++ content) =
    (String.fromUTF8? content).map (String.singleton mark ++ ·) := by
  cases htext : String.fromUTF8? content with
  | some text =>
    obtain rfl := fromUTF8?_eq_some_iff.1 htext
    exact fromUTF8?_eq_some_iff.2 (toUTF8_mark_append text)
  | none =>
    -- The mark takes up a whole character, so it does not turn the bytes behind it into a text.
    refine fromUTF8?_eq_none_iff.2 ?_
    rintro ⟨text, htext'⟩
    have hvalid : (markBytes ++ content).IsValidUTF8 := htext' ▸ text.isValidUTF8
    rw [← utf8Encode_mark, ByteArray.isValidUTF8_utf8Encode_singleton_append_iff] at hvalid
    exact fromUTF8?_eq_none_iff.1 htext ⟨String.fromUTF8 content hvalid, rfl⟩

/-- A text that does not begin with the byte order mark is the same document with it. -/
theorem read_mark_append {text : String} (h : text.toList.head? ≠ some mark) :
    read (String.singleton mark ++ text) = read text := by
  have hwith : dropMark (String.singleton mark ++ text).toList = text.toList := by
    rw [String.toList_append, String.toList_singleton]
    rfl
  have hwithout : dropMark text.toList = text.toList := by
    cases hcs : text.toList with
    | nil => rfl
    | cons c cs =>
      have hc : c ≠ mark := fun hc => h (by rw [hcs, hc, List.head?_cons])
      rw [dropMark, if_neg hc]
  rw [read, read, hwith, hwithout]

theorem exists_toUTF8_of_head {text : String} (h : text.toList.head? = some mark) :
    ∃ rest, text.toUTF8 = markBytes ++ rest := by
  obtain ⟨cs, hcs⟩ := List.head?_eq_some_iff.1 h
  have htext : text = String.singleton mark ++ String.ofList cs := by
    rw [← String.ofList_toList (s := text), hcs, ← String.toList_inj]
    simp
  exact ⟨_, by rw [htext, toUTF8_mark_append]⟩

end Toml

/-! ### Texts and files -/

/-- Results that are the same, save for the words in which a text is refused as unparsable. -/
inductive SameButWords {α : Type} : Except SetupError α → Except SetupError α → Prop
  /-- The same result. -/
  | same (r : Except SetupError α) : SameButWords r r
  /-- The parser refuses both. -/
  | unparsed (words words' : String) :
      SameButWords (.error (.configParseFailed words)) (.error (.configParseFailed words'))

namespace Config

variable {σ : Type} [DecidableEq σ] [Status σ] {text t : String} {ws : List String} {explain : String → String}

/-- **A document of the right shape gives what the check makes of what it states.** -/
theorem readToml_of_states (h : Toml.States text t ws) :
    (readToml text explain : Except SetupError (Config σ)) =
      (new (Status.ofWire t) (ws.map Status.ofWire)).mapError Conflict.toError := by
  obtain ⟨entries, hread, hshaped⟩ := h
  have hdeclares : (Declaration.ofToml? entries : Option (Declaration σ)) = some (.ofWires t ws) :=
    Declaration.ofToml?_eq_some_iff.2 ⟨t, ws, hshaped, rfl⟩
  simp only [readToml, hread, Option.bind_eq_bind, Option.bind_some, hdeclares]
  rfl

/-- **Any other text is refused in the words of the parser.** -/
theorem readToml_of_not_states (h : ¬ ∃ t ws, Toml.States text t ws) :
    (readToml text explain : Except SetupError (Config σ)) = .error (.configParseFailed (explain text)) := by
  unfold readToml
  cases hd : (Toml.read text >>= Declaration.ofToml? : Option (Declaration σ)) with
  | none => rfl
  | some d =>
    obtain ⟨entries, hread, hd⟩ := Option.bind_eq_some_iff.1 hd
    obtain ⟨t, ws, hshaped, -⟩ := Declaration.ofToml?_eq_some_iff.1 hd
    exact absurd ⟨t, ws, entries, hread, hshaped⟩ h

/-- **A text is refused in the words of the parser, or for the contradiction that it states**, and in no third
way. -/
theorem readToml_eq_error_iff {e : SetupError} :
    (readToml text explain : Except SetupError (Config σ)) = .error e ↔
      ((¬ ∃ t ws, Toml.States text t ws) ∧ e = .configParseFailed (explain text)) ∨
        ∃ t ws, Toml.States text t ws ∧ ∃ conflict : Conflict σ,
          new (Status.ofWire t) (ws.map Status.ofWire) = .error conflict ∧ e = conflict.toError := by
  constructor
  · intro h
    by_cases hstates : ∃ t ws, Toml.States text t ws
    · obtain ⟨t, ws, hstates⟩ := hstates
      rw [readToml_of_states hstates] at h
      obtain ⟨conflict, hnew, rfl⟩ := mapError_eq_error_iff.1 h
      exact .inr ⟨t, ws, hstates, conflict, hnew, rfl⟩
    · rw [readToml_of_not_states hstates] at h
      exact .inl ⟨hstates, (Except.error.inj h).symm⟩
  · rintro (⟨hstates, rfl⟩ | ⟨t, ws, hstates, conflict, hnew, rfl⟩)
    · exact readToml_of_not_states hstates
    · rw [readToml_of_states hstates, hnew]
      rfl

theorem readToml_eq_invalidConfig_iff :
    (∃ reason, (readToml text explain : Except SetupError (Config σ)) = .error (.invalidConfig reason)) ↔
      ∃ t ws, Toml.States text t ws ∧
        ((Status.ofWire t : σ) = Status.unrecognized ∨ (Status.ofWire t : σ) ∈ ws.map Status.ofWire) := by
  constructor
  · rintro ⟨reason, h⟩
    obtain ⟨-, he⟩ | ⟨t, ws, hstates, conflict, hnew, -⟩ := readToml_eq_error_iff.1 h
    · cases he
    · exact ⟨t, ws, hstates, exists_new_eq_error_iff.1 ⟨conflict, hnew⟩⟩
  · rintro ⟨t, ws, hstates, h⟩
    obtain ⟨conflict, hnew⟩ := exists_new_eq_error_iff.2 h
    exact ⟨conflict.reason, readToml_eq_error_iff.2 (.inr ⟨t, ws, hstates, conflict, hnew, rfl⟩)⟩

theorem readToml_eq_configParseFailed_iff {words : String} :
    (readToml text explain : Except SetupError (Config σ)) = .error (.configParseFailed words) ↔
      (¬ ∃ t ws, Toml.States text t ws) ∧ words = explain text := by
  rw [readToml_eq_error_iff]
  constructor
  · rintro (⟨hstates, he⟩ | ⟨t, ws, -, conflict, -, he⟩)
    · exact ⟨hstates, SetupError.configParseFailed.inj he⟩
    · cases he
  · rintro ⟨hstates, rfl⟩
    exact .inl ⟨hstates, rfl⟩

theorem eq_of_readToml_eq_error {e : SetupError}
    (h : (readToml text explain : Except SetupError (Config σ)) = .error e) :
    ∃ reason, e = .configParseFailed reason ∨ e = .invalidConfig reason := by
  obtain ⟨-, rfl⟩ | ⟨t, ws, -, conflict, -, rfl⟩ := readToml_eq_error_iff.1 h
  · exact ⟨explain text, .inl rfl⟩
  · exact ⟨conflict.reason, .inr rfl⟩

/-- The words of the parser are the reason of a refusal at most. -/
theorem readToml_explain (text : String) (explain explain' : String → String) :
    SameButWords (readToml text explain : Except SetupError (Config σ)) (readToml text explain') := by
  unfold readToml
  cases (Toml.read text >>= Declaration.ofToml? : Option (Declaration σ)) with
  | none => exact .unparsed _ _
  | some d => exact .same _

/-- A byte order mark in front of a text that has none makes no difference but that the parser speaks of the text
with the mark. -/
theorem readToml_mark (h : text.toList.head? ≠ some Toml.mark) :
    (readToml (String.singleton Toml.mark ++ text) explain : Except SetupError (Config σ)) =
      readToml text fun text => explain (String.singleton Toml.mark ++ text) := by
  rw [readToml, readToml, Toml.read_mark_append h]

theorem ofFile_toUTF8 (text : String) (explain : String → String) :
    (ofFile (.bytes text.toUTF8) explain : Except SetupError (Config σ)) = readToml text explain := by
  simp only [ofFile, fromUTF8?_eq_some_iff.2 rfl]

theorem ofFile_of_not_toUTF8 {content : ByteArray} (h : ¬ ∃ text : String, text.toUTF8 = content) :
    (ofFile (.bytes content) explain : Except SetupError (Config σ)) = .error (.file .notUtf8) := by
  simp only [ofFile, fromUTF8?_eq_none_iff.2 h]

theorem ofFile_eq_file_iff {content : ByteArray} :
    (∃ fault, (ofFile (.bytes content) explain : Except SetupError (Config σ)) = .error (.file fault)) ↔
      ¬ ∃ text : String, text.toUTF8 = content := by
  refine ⟨?_, fun h => ⟨_, ofFile_of_not_toUTF8 h⟩⟩
  rintro ⟨fault, h⟩ ⟨text, rfl⟩
  rw [ofFile_toUTF8] at h
  obtain ⟨reason, he | he⟩ := eq_of_readToml_eq_error h <;> cases he

/-- A byte order mark in front of a file that has none makes no more difference than in front of a text, also if
the file is no text. -/
theorem ofFile_mark {content : ByteArray} (h : ¬ ∃ rest, content = Toml.markBytes ++ rest) :
    SameButWords (ofFile (.bytes (Toml.markBytes ++ content)) explain : Except SetupError (Config σ))
      (ofFile (.bytes content) explain) := by
  simp only [ofFile, Toml.fromUTF8?_mark_append]
  cases htext : String.fromUTF8? content with
  | none => exact .same _
  | some text =>
    have hhead : text.toList.head? ≠ some Toml.mark := by
      obtain rfl := fromUTF8?_eq_some_iff.1 htext
      exact fun hhead => h (Toml.exists_toUTF8_of_head hhead)
    show SameButWords (readToml (String.singleton Toml.mark ++ text) explain) (readToml text explain)
    rw [readToml_mark hhead]
    exact readToml_explain text _ _

end Config

/-! ### Failures -/

/-- An error in the form in which the caller gets it. -/
inductive Failure
  /-- As an error of the setup. -/
  | setup (error : SetupError)
  /-- As an error of polling. -/
  | poll (error : PollError)
deriving DecidableEq, Repr

namespace Failure

/-- The text of the failure. -/
def message : Failure → String
  | setup error => error.message
  | poll error => error.message

/-- The caller's configuration is at fault. -/
def isConfig : Failure → Bool
  | setup error => error.isConfig
  | poll error => error.isConfig

/-- The failure as an error of polling: one of the setup is passed on. -/
def passedOn : Failure → PollError
  | setup error => .setup error
  | poll error => error

/-- The failure says that the configuration contradicts itself or is not complete: as either kind of error, or as
one of the setup that was passed on already. -/
inductive IsInvalidConfig : Failure → Prop
  /-- As an error of the setup. -/
  | setup (reason : String) : IsInvalidConfig (.setup (.invalidConfig reason))
  /-- As an error of polling. -/
  | poll (reason : String) : IsInvalidConfig (.poll (.invalidConfig reason))
  /-- As an error of the setup that was passed on. -/
  | passedOn (reason : String) : IsInvalidConfig (.poll (.setup (.invalidConfig reason)))

theorem passedOn_eq (f : Failure) : f.passedOn.message = f.message ∧ f.passedOn.isConfig = f.isConfig := by
  cases f <;> exact ⟨rfl, rfl⟩

end Failure

section

variable {S σ : Type} [DecidableEq σ] [Status σ]

/-- The failure of a result, in the form in which the caller gets it. -/
def failureOf? {ε α : Type} (form : ε → Failure) : Except ε α → Option Failure
  | .ok _ => none
  | .error e => some (form e)

theorem failureOf?_eq_some_iff {ε α : Type} {form : ε → Failure} {r : Except ε α} {f : Failure} :
    failureOf? form r = some f ↔ ∃ e, r = .error e ∧ form e = f := by
  cases r <;> simp [failureOf?]

theorem toOption_eq_none_iff {ε α : Type} (form : ε → Failure) (r : Except ε α) :
    r.toOption = none ↔ ∃ f, failureOf? form r = some f := by
  cases r <;> simp [Except.toOption, failureOf?]

namespace Origin

/-- The failure of an origin, by the functions that callers use; `S` is the kind of snapshots that a wait is for.
The reader of JSON texts has an error of its own. -/
def failure? (S : Type) : Origin σ → Option Failure
  | pair target invalid => failureOf? (fun conflict => .setup conflict.toError) (Config.new target invalid)
  | alone target => failureOf? (fun conflict => .setup conflict.toError) (Config.withDefaultInvalid target)
  | toml text explain => failureOf? .setup (Config.readToml text explain : Except _ (Config σ))
  | file found explain => failureOf? .setup (Config.ofFile found explain : Except _ (Config σ))
  | json _ => none
  | plan settings =>
      failureOf? (fun fault => .poll fault.toError)
        ((Plan.empty.setAll settings).build : Except _ (Wait S σ))
  | client target invalid layers =>
      failureOf? .poll (Wait.forTarget target invalid layers : Except _ (Wait S σ))

/-- An origin gives no configuration exactly if it fails, where JSON texts are left out. -/
theorem config?_eq_none_iff {o : Origin σ} (h : ∀ text, o ≠ .json text) :
    o.config? S = none ↔ ∃ f, o.failure? S = some f := by
  cases o with
  | pair | alone | toml | file => exact toOption_eq_none_iff _ _
  | json text => exact absurd rfl (h text)
  | plan | client => exact Option.map_eq_none_iff.trans (toOption_eq_none_iff _ _)

/-- **An origin fails in one of three ways**: its configuration is invalid, its text cannot be parsed, or its file
cannot be read; and only texts and files fail in the second way, and only files in the third. -/
theorem failure?_cases {o : Origin σ} {f : Failure} (h : o.failure? S = some f) : f.IsInvalidConfig ∨
    (((∃ text explain, o = .toml text explain) ∨ ∃ found explain, o = .file found explain) ∧
      ∃ reason, f = .setup (.configParseFailed reason)) ∨
    ((∃ found explain, o = .file found explain) ∧ ∃ fault, f = .setup (.file fault)) := by
  -- A file that is a text is refused as its text is.
  have hread {text : String} {explain : String → String} {e : SetupError}
      (he : (Config.readToml text explain : Except SetupError (Config σ)) = .error e) :
      Failure.IsInvalidConfig (.setup e) ∨
        ∃ reason, Failure.setup e = .setup (.configParseFailed reason) := by
    obtain ⟨reason, rfl | rfl⟩ := Config.eq_of_readToml_eq_error he
    · exact .inr ⟨reason, rfl⟩
    · exact .inl (.setup reason)
  cases o with
  | pair | alone =>
    obtain ⟨conflict, -, rfl⟩ := failureOf?_eq_some_iff.1 h
    exact .inl (.setup conflict.reason)
  | toml text explain =>
    obtain ⟨e, he, rfl⟩ := failureOf?_eq_some_iff.1 h
    exact (hread he).imp_right fun hparse => .inl ⟨.inl ⟨text, explain, rfl⟩, hparse⟩
  | file found explain =>
    obtain ⟨e, he, rfl⟩ := failureOf?_eq_some_iff.1 h
    cases found with
    | missing | directory =>
      cases he
      exact .inr (.inr ⟨⟨_, _, rfl⟩, _, rfl⟩)
    | bytes content =>
      by_cases hvalid : ∃ text : String, text.toUTF8 = content
      · obtain ⟨text, rfl⟩ := hvalid
        rw [Config.ofFile_toUTF8] at he
        exact (hread he).imp_right fun hparse => .inl ⟨.inr ⟨_, _, rfl⟩, hparse⟩
      · rw [Config.ofFile_of_not_toUTF8 hvalid] at he
        cases he
        exact .inr (.inr ⟨⟨_, _, rfl⟩, _, rfl⟩)
  | json text => cases h
  | plan settings =>
    obtain ⟨fault, -, rfl⟩ := failureOf?_eq_some_iff.1 h
    cases fault with
    | noLookup | twoTargets | twoInvalid | noTarget => exact .inl (.poll _)
    | conflict conflict => exact .inl (.passedOn conflict.reason)
  | client target invalid layers =>
    obtain ⟨e, he, rfl⟩ := failureOf?_eq_some_iff.1 h
    unfold Wait.forTarget at he
    split at he
    · cases he
    · next conflict _ =>
      cases he
      exact .inl (.passedOn conflict.reason)

variable {o : Origin σ} {f : Failure}

theorem isConfig_of_failure? (h : o.failure? S = some f) :
    f.isConfig = true ↔ ∀ fault, f ≠ .setup (.file fault) := by
  rcases failure?_cases h with hinvalid | ⟨-, reason, rfl⟩ | ⟨-, fault, rfl⟩
  · cases hinvalid <;> simp [Failure.isConfig, SetupError.isConfig, PollError.isConfig]
  · simp [Failure.isConfig, SetupError.isConfig]
  · simp [Failure.isConfig, SetupError.isConfig]

theorem isInconclusive_of_failure? (h : o.failure? S = some f) : f.passedOn.isInconclusive = false := by
  rcases failure?_cases h with hinvalid | ⟨-, reason, rfl⟩ | ⟨-, fault, rfl⟩
  · cases hinvalid <;> rfl
  · rfl
  · rfl

end Origin

/-! ### All ways to a configuration -/

namespace Config

/-- **Each refusal is classified.** A text is refused as a contradiction exactly if it is a TOML document of the
right shape whose target is the catch-all or an invalid status, it is refused in the words of the parser exactly if
it is no such document, and in no third way. A file is refused as a file exactly if its bytes are those of no text,
and else is what its text is. A byte order mark in front makes no difference where there is none yet, save in the
words of the parser. Every other way to a configuration, JSON apart, fails with an invalid configuration, if it does
not give one. All failures but those of files are the configuration's fault, and none of them, passed on as an error
of polling or not, leaves open how a resource is; to be passed on changes neither the text nor who is at fault. -/
theorem refusals_are_classified (explain : String → String) :
    (∀ text : String,
      ((∃ reason, (readToml text explain : Except SetupError (Config σ)) = .error (.invalidConfig reason)) ↔
        ∃ t ws, Toml.States text t ws ∧
          ((Status.ofWire t : σ) = Status.unrecognized ∨ (Status.ofWire t : σ) ∈ ws.map Status.ofWire)) ∧
      (∀ words, (readToml text explain : Except SetupError (Config σ)) = .error (.configParseFailed words) ↔
        (¬ ∃ t ws, Toml.States text t ws) ∧ words = explain text) ∧
      (∀ e, (readToml text explain : Except SetupError (Config σ)) = .error e →
        ∃ reason, e = .configParseFailed reason ∨ e = .invalidConfig reason) ∧
      (text.toList.head? ≠ some Toml.mark →
        SameButWords (readToml (String.singleton Toml.mark ++ text) explain : Except SetupError (Config σ))
          (readToml text explain))) ∧
    (∀ content : ByteArray,
      ((∃ fault, (ofFile (.bytes content) explain : Except SetupError (Config σ)) = .error (.file fault)) ↔
        ¬ ∃ text : String, text.toUTF8 = content) ∧
      (∀ text : String, text.toUTF8 = content →
        (ofFile (.bytes content) explain : Except SetupError (Config σ)) = readToml text explain) ∧
      ((¬ ∃ rest, content = Toml.markBytes ++ rest) →
        SameButWords (ofFile (.bytes (Toml.markBytes ++ content)) explain : Except SetupError (Config σ))
          (ofFile (.bytes content) explain))) ∧
    ∀ o : Origin σ,
      ((∀ text, o ≠ .json text) → (o.config? S = none ↔ ∃ f, o.failure? S = some f)) ∧
      ∀ f, o.failure? S = some f →
        ((∀ text explain, o ≠ .toml text explain) → (∀ found explain, o ≠ .file found explain) →
          f.IsInvalidConfig) ∧
        (f.isConfig = true ↔ ∀ fault, f ≠ .setup (.file fault)) ∧
        f.passedOn.isConfig = f.isConfig ∧ f.passedOn.message = f.message ∧
        f.passedOn.isInconclusive = false := by
  refine ⟨fun text => ⟨readToml_eq_invalidConfig_iff, fun words => readToml_eq_configParseFailed_iff,
      fun e => eq_of_readToml_eq_error, fun h => ?_⟩,
    fun content => ⟨ofFile_eq_file_iff, ?_, ofFile_mark⟩,
    fun o => ⟨Origin.config?_eq_none_iff, fun f h => ⟨fun htoml hfile => ?_, Origin.isConfig_of_failure? h,
      f.passedOn_eq.2, f.passedOn_eq.1, Origin.isInconclusive_of_failure? h⟩⟩⟩
  · rw [readToml_mark h]
    exact readToml_explain text _ _
  · rintro text rfl
    exact ofFile_toUTF8 text explain
  · rcases Origin.failure?_cases h with
      hinvalid | ⟨⟨text, explain, ho⟩ | ⟨found, explain, ho⟩, -⟩ | ⟨⟨found, explain, ho⟩, -⟩
    · exact hinvalid
    · exact absurd ho (htoml text explain)
    · exact absurd ho (hfile found explain)
    · exact absurd ho (hfile found explain)

/-- A document that lists its target is refused as a contradiction, also behind a byte order mark and in a file.
A file with a byte that begins no character is no text, with a mark or without. A plan with the same target and
no list is refused by the default one, with an error that was passed on. -/
theorem refusals_are_classified_of_listed_target :
    let text := "target = \"ERROR\"\ninvalid = [\"ERROR\"]\n"
    let refusal := SetupError.invalidConfig "target status ERROR is also listed as invalid"
    let plan : Origin NodeStatus := .plan [.lookup [], .target .error]
    ((readToml text : Except SetupError (Config NodeStatus)) = .error refusal ∧
      (∃ t ws, Toml.States text t ws ∧ ((Status.ofWire t : NodeStatus) = Status.unrecognized ∨
        (Status.ofWire t : NodeStatus) ∈ ws.map Status.ofWire)) ∧
      text.toList.head? ≠ some Toml.mark ∧
      SameButWords (readToml (String.singleton Toml.mark ++ text) : Except SetupError (Config NodeStatus))
        (.error refusal)) ∧
    ((ofFile (.bytes text.toUTF8) : Except SetupError (Config NodeStatus)) = .error refusal ∧
      (¬ ∃ rest, (⟨#[0xFF]⟩ : ByteArray) = Toml.markBytes ++ rest) ∧
      SameButWords (ofFile (.bytes (Toml.markBytes ++ ⟨#[0xFF]⟩)) : Except SetupError (Config NodeStatus))
        (.error (.file .notUtf8))) ∧
    (plan.failure? Node = some (.poll (.setup refusal)) ∧ PollError.isConfig (.setup refusal) = true ∧
      plan.config? Node = none) := by
  intro text refusal plan
  obtain ⟨htexts, hfiles, horigins⟩ := refusals_are_classified (S := Node) (σ := NodeStatus) unexplained
  obtain ⟨hinvalid, -, -, hmark⟩ := htexts text
  obtain ⟨-, hread, -⟩ := hfiles text.toUTF8
  obtain ⟨-, -, hmarked⟩ := hfiles ⟨#[0xFF]⟩
  obtain ⟨hnone, hclass⟩ := horigins plan
  have hrefused : (readToml text : Except SetupError (Config NodeStatus)) = .error refusal := by
    decide +kernel
  have hhead : text.toList.head? ≠ some Toml.mark := by decide
  have hbyte : ¬ ∃ rest, (⟨#[0xFF]⟩ : ByteArray) = Toml.markBytes ++ rest := by
    rintro ⟨rest, h⟩
    have hsize : 1 = 3 + rest.size := (congrArg ByteArray.size h).trans ByteArray.size_append
    omega
  have hunread : (ofFile (.bytes ⟨#[0xFF]⟩) : Except SetupError (Config NodeStatus)) =
      .error (.file .notUtf8) := by
    decide +kernel
  have hfails : plan.failure? Node = some (.poll (.setup refusal)) := by decide +kernel
  refine ⟨⟨hrefused, hinvalid.1 ⟨_, hrefused⟩, hhead, ?_⟩, ⟨(hread text rfl).trans hrefused, hbyte, ?_⟩, hfails, ?_,
    (hnone nofun).2 ⟨_, hfails⟩⟩
  · rw [← hrefused]
    exact hmark hhead
  · rw [← hunread]
    exact hmarked hbyte
  · exact (hclass _ hfails).2.1.2 nofun

end Config

end

end StatusWait
