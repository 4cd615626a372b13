import StatusWait.Config.Declaration
import StatusWait.Proofs.Json.Written
import StatusWait.Proofs.Toml.Lines
import StatusWait.Status.Node

/-!
# Documents and the constructor

A target and a list of invalid statuses can be given to the constructor, or written into a document. This module
says that it makes no difference, whatever strings stand in the document and however it is spelled.

## The model

`Toml.Declares t l doc` says that the lines `doc` declare the target spelled `t` and the invalid statuses spelled
`l`, in either order, and `Json.Declares t l v` that the value `v` does, as an object with either order of its
members or as an array. Where no invalid status is listed, the list may be missing.

## What is proved

* `Declaration.ofToml?_of_declares`, `Declaration.ofJson?_of_declares` — both shapes declare the statuses of the
  spellings.
* `Config.readToml_of_declares`, `Config.readJson_of_declares` — reading a document is calling the constructor.
-/

namespace StatusWait

/-! ### The documents -/

/-- The lines of a document that declares a target and a list of invalid statuses. -/
inductive Toml.Declares (t : String) (l : List String) : List (String × Plain) → Prop
  | targetFirst : Declares t l [("target", .string t), ("invalid", .array l)]
  | invalidFirst : Declares t l [("invalid", .array l), ("target", .string t)]
  | targetOnly (h : l = []) : Declares t l [("target", .string t)]

/-- The value of a JSON text that declares a target and a list of invalid statuses. -/
inductive Json.Declares (t : String) (l : List String) : Value → Prop
  | targetFirst {key key' : Text} {v v' : Value} (hkey : key.toString? = some "target")
      (hkey' : key'.toString? = some "invalid") (hv : v.text? = some t) (hv' : v'.list? Value.text? = some l) :
      Declares t l (.object [(key, v), (key', v')])
  | invalidFirst {key key' : Text} {v v' : Value} (hkey : key.toString? = some "target")
      (hkey' : key'.toString? = some "invalid") (hv : v.text? = some t) (hv' : v'.list? Value.text? = some l) :
      Declares t l (.object [(key', v'), (key, v)])
  | targetOnly {key : Text} {v : Value} (h : l = []) (hkey : key.toString? = some "target")
      (hv : v.text? = some t) : Declares t l (.object [(key, v)])
  | pair {v v' : Value} (hv : v.text? = some t) (hv' : v'.list? Value.text? = some l) :
      Declares t l (.array [v, v'])
  | single {v : Value} (h : l = []) (hv : v.text? = some t) : Declares t l (.array [v])

theorem Json.Declares.reread {t : String} {l : List String} {v : Value} (h : Declares t l v) :
    Declares t l v.reread := by
  have hlist {v : Value} (hv : v.list? Value.text? = some l) : v.reread.list? Value.text? = some l :=
    (Value.list?_reread Value.text?_reread v).trans hv
  cases h with
  | targetFirst hkey hkey' hv hv' =>
    rw [Value.reread_object]
    exact .targetFirst ((Text.toString?_reread _).trans hkey) ((Text.toString?_reread _).trans hkey')
      ((Value.text?_reread _).trans hv) (hlist hv')
  | invalidFirst hkey hkey' hv hv' =>
    rw [Value.reread_object]
    exact .invalidFirst ((Text.toString?_reread _).trans hkey) ((Text.toString?_reread _).trans hkey')
      ((Value.text?_reread _).trans hv) (hlist hv')
  | targetOnly h hkey hv =>
    rw [Value.reread_object]
    exact .targetOnly h ((Text.toString?_reread _).trans hkey) ((Value.text?_reread _).trans hv)
  | pair hv hv' =>
    rw [Value.reread_array]
    exact .pair ((Value.text?_reread _).trans hv) (hlist hv')
  | single h hv =>
    rw [Value.reread_array]
    exact .single h ((Value.text?_reread _).trans hv)

variable {σ : Type} [Status σ] {t : String} {l : List String}

/-! ### What they declare -/

namespace Declaration

/-- The declaration of a target and invalid statuses by their spellings. -/
def ofWires (t : String) (l : List String) : Declaration σ := ⟨Status.ofWire t, l.map Status.ofWire⟩

theorem tomlStatuses?_array (l : List String) :
    (tomlStatuses? (Toml.Plain.array l).value : Option (List σ)) = some (l.map Status.ofWire) := by
  show (l.map Toml.Value.string).mapM tomlStatus? = _
  rw [List.mapM_map]
  exact List.mapM_pure

/-- **The lines of a document declare the statuses of the spellings.** -/
theorem ofToml?_of_declares {doc : List (String × Toml.Plain)} (h : Toml.Declares t l doc) :
    ofToml? (Toml.entriesOf doc) = some (ofWires t l : Declaration σ) := by
  have hinvalid : (tomlStatuses? (Toml.Plain.array l).value >>= fun invalid =>
      some ⟨Status.ofWire t, invalid⟩) = some (ofWires t l : Declaration σ) := by
    rw [tomlStatuses?_array]
    rfl
  cases h with
  | targetFirst => exact hinvalid
  | invalidFirst => exact hinvalid
  | targetOnly h =>
    subst h
    rfl

theorem ofJson?_of_text? {v : Json.Value} {s : String} (h : v.text? = some s) :
    Status.ofJson? v = some (Status.ofWire s : σ) := by
  cases v with
  | string text => exact congrArg (Status.ofWire <$> ·) h
  | null | bool | number | array | object => cases h

theorem list?_ofJson?_of_text? {v : Json.Value} (h : v.list? Json.Value.text? = some l) :
    v.list? Status.ofJson? = some (l.map (Status.ofWire : String → σ)) := by
  cases v with
  | array items =>
    show items.mapM Status.ofJson? = _
    replace h : items.mapM Json.Value.text? = some l := h
    induction items generalizing l with
    | nil =>
      cases h
      rfl
    | cons v vs ih =>
      rw [List.mapM_cons] at h
      obtain ⟨s, hs, h⟩ := Option.bind_eq_some_iff.1 h
      obtain ⟨ss, hss, h⟩ := Option.bind_eq_some_iff.1 h
      cases h
      rw [List.mapM_cons, ofJson?_of_text? hs, ih hss]
      rfl
  | null | bool | number | string | object => cases h

/-- **The value of a JSON text declares the statuses of the spellings.** -/
theorem ofJson?_of_declares {v : Json.Value} (h : Json.Declares t l v) :
    ofJson? v = some (ofWires t l : Declaration σ) := by
  have hparts {v v' : Json.Value} (hv : v.text? = some t) (hv' : v'.list? Json.Value.text? = some l) :
      ofParts? v (some v') = some (ofWires t l : Declaration σ) := by
    rw [ofParts?, ofJson?_of_text? hv]
    show ((v'.list? Status.ofJson?).bind fun invalid => some (Declaration.mk (Status.ofWire t : σ) invalid)) = _
    rw [list?_ofJson?_of_text? hv']
    rfl
  have hsingle {v : Json.Value} (h : l = []) (hv : v.text? = some t) :
      ofParts? v none = some (ofWires t l : Declaration σ) := by
    rw [ofParts?, ofJson?_of_text? hv, h]
    rfl
  have hfields (key : Json.Text) (v : Json.Value) (members : List (Json.Text × Json.Value)) {name : String}
      (hkey : key.toString? = some name) :
      Json.fields? ((key, v) :: members) = (Json.fields? members).map ((name, v) :: ·) := by
    rw [Json.fields?_cons, hkey]
    rfl
  cases h with
  | targetFirst hkey hkey' hv hv' =>
    rw [ofJson?, hfields _ _ _ hkey, hfields _ _ _ hkey']
    exact hparts hv hv'
  | invalidFirst hkey hkey' hv hv' =>
    rw [ofJson?, hfields _ _ _ hkey', hfields _ _ _ hkey]
    exact hparts hv hv'
  | targetOnly h hkey hv =>
    rw [ofJson?, hfields _ _ _ hkey]
    exact hsingle h hv
  | pair hv hv' => exact hparts hv hv'
  | single h hv => exact hsingle h hv

end Declaration

/-! ### Reading is calling the constructor -/

namespace Config

variable [DecidableEq σ]

/-- **Reading a TOML document is calling the constructor.** -/
theorem readToml_of_declares {doc : List (String × Toml.Plain)} (hdoc : Toml.Declares t l doc)
    {text : String} (htext : Toml.IsDocument text doc) (explain : String → String) :
    (readToml text explain : Except SetupError (Config σ)) =
      (new (Status.ofWire t) (l.map Status.ofWire)).mapError Conflict.toError := by
  have hkeys : (doc.map Prod.fst).Nodup := by
    cases hdoc <;> simp
  have hdeclares : (Declaration.ofToml? (Toml.entriesOf doc) : Option (Declaration σ)) = some (.ofWires t l) :=
    Declaration.ofToml?_of_declares hdoc
  simp only [readToml, Toml.read_of_isDocument htext hkeys, Option.bind_eq_bind, Option.bind_some, hdeclares,
    Declaration.toConfig, Declaration.ofWires]

/-- **Reading a JSON text is calling the constructor.** -/
theorem readJson_of_declares {v : Json.Value} (hv : Json.Declares t l v) {text : String}
    (htext : Json.Spells text.toList v.tokens []) :
    (readJson text : Except (JsonFault σ) (Config σ)) =
      (new (Status.ofWire t) (l.map Status.ofWire)).mapError .conflict := by
  have hdeclares : (Declaration.ofJson? v : Option (Declaration σ)) = some (.ofWires t l) :=
    Declaration.ofJson?_of_declares hv
  simp only [readJson, Json.readFirst_of_spells htext, hdeclares, Declaration.toConfig, Declaration.ofWires]
  cases (new (Status.ofWire t) (l.map Status.ofWire) : Except (Conflict σ) (Config σ)) with
  | error c => rfl
  | ok config => rfl

/-- **Documents and the constructor agree.** A spelling on the wire stands for its status and every other string
for the catch-all; and for all strings `t` and `l`, each spelling of each document that declares them, in TOML or
in JSON, gives what the constructor makes of the statuses that they stand for: the same configuration, or the same
contradiction. So none of these documents is unreadable or of the wrong shape. There are such texts for all
strings: lines that escape what they must, and compact JSON. -/
theorem documents_agree_with_new (t : String) (l : List String) (explain : String → String) :
    let made : Except (Conflict σ) (Config σ) := new (Status.ofWire t) (l.map Status.ofWire)
    ((∀ s : σ, Status.ofWire (Status.wire s) = s) ∧
      ∀ w, (∀ s : σ, Status.wire s ≠ w) → (Status.ofWire w : σ) = Status.unrecognized) ∧
    (∀ doc, Toml.Declares t l doc → Toml.IsDocument (String.ofList (Toml.writeLines doc)) doc ∧
      ∀ text, Toml.IsDocument text doc → readToml text explain = made.mapError Conflict.toError ∧
        ∀ reason, (readToml text explain : Except SetupError (Config σ)) ≠ .error (.configParseFailed reason)) ∧
    ∀ v, Json.Declares t l v →
      (v.WellFormed → Json.Declares t l v.reread ∧ Json.Spells v.toText.toList v.reread.tokens []) ∧
      ∀ text : String, Json.Spells text.toList v.tokens [] → readJson text = made.mapError .conflict ∧
        (readJson text : Except (JsonFault σ) (Config σ)) ≠ .error .malformed := by
  intro made
  refine ⟨⟨Status.ofWire_wire, fun w => Status.ofWire_eq_unrecognized⟩, fun doc hdoc => ⟨?_, ?_⟩,
    fun v hv => ⟨fun h => ⟨hv.reread, h.spells_toText⟩, ?_⟩⟩
  · refine Toml.isDocument_writeLines fun line hline => ?_
    have hkey : line.1 = "target" ∨ line.1 = "invalid" := by
      cases hdoc <;> simp at hline <;> rcases hline with rfl | rfl <;> simp
    rcases hkey with hkey | hkey <;> rw [hkey] <;> decide
  · intro text htext
    have hread : readToml text explain = made.mapError Conflict.toError :=
      readToml_of_declares hdoc htext explain
    refine ⟨hread, fun reason => ?_⟩
    rw [hread]
    cases made <;> exact nofun
  · intro text htext
    have hread : readJson text = made.mapError .conflict := readJson_of_declares hv htext
    refine ⟨hread, ?_⟩
    rw [hread]
    cases made <;> exact nofun

/-- A document with its target behind a list that names one status and holds one string with escapes gives the
configuration, and so does the same in JSON; a document that lists its target is refused with the words of the
constructor. -/
theorem documents_agree_with_new_of_escapes :
    let l := ["ERROR", "\"\n"]
    let good : List (String × Toml.Plain) := [("invalid", .array l), ("target", .string "RUNNING")]
    let goodText := "invalid = [\"ERROR\",\"\\u0022\\u000a\"]\ntarget = \"RUNNING\"\n"
    let bad : List (String × Toml.Plain) := [("target", .string "ERROR"), ("invalid", .array ["ERROR"])]
    let badText := "target = \"ERROR\"\ninvalid = [\"ERROR\"]\n"
    let pair : Json.Value :=
      .array [.string (.ofString "RUNNING"), .array (l.map fun s => .string (.ofString s))]
    let pairText := "[\"RUNNING\",[\"ERROR\",\"\\\"\\n\"]]"
    (Toml.Declares "RUNNING" l good ∧ Toml.IsDocument goodText good ∧
      (readToml goodText).map (fun c => (c.target, c.invalid)) =
        .ok (NodeStatus.running, [.error, .unrecognized])) ∧
    (Toml.Declares "ERROR" ["ERROR"] bad ∧ Toml.IsDocument badText bad ∧
      (readToml badText : Except SetupError (Config NodeStatus)) =
        .error (.invalidConfig "target status ERROR is also listed as invalid")) ∧
    Json.Declares "RUNNING" l pair.reread ∧ Json.Spells pairText.toList pair.reread.tokens [] ∧
      (readJson pairText).map (fun c => (c.target, c.invalid)) =
        .ok (NodeStatus.running, [.error, .unrecognized]) := by
  intro l good goodText bad badText pair pairText
  obtain ⟨-, htoml, hjson⟩ := documents_agree_with_new (σ := NodeStatus) "RUNNING" l unexplained
  obtain ⟨-, hrefused, -⟩ := documents_agree_with_new (σ := NodeStatus) "ERROR" ["ERROR"] unexplained
  have hgoodText : String.ofList (Toml.writeLines good) = goodText := by decide
  have hbadText : String.ofList (Toml.writeLines bad) = badText := by decide
  have hpairText : pair.toText = pairText := by decide
  have hstring (s : String) : (Json.Value.string (.ofString s)).WellFormed :=
    .string (Json.Text.readable_ofString s)
  have hpair : pair.WellFormed := by
    refine .array fun v hv => ?_
    obtain rfl | rfl : v = _ ∨ v = _ := by simpa only [List.mem_cons, List.not_mem_nil, or_false] using hv
    · exact hstring "RUNNING"
    · refine .array fun w hw => ?_
      obtain ⟨s, -, rfl⟩ := List.mem_map.1 hw
      exact hstring s
  obtain ⟨hgood, hread⟩ := htoml good .invalidFirst
  obtain ⟨hbad, hread'⟩ := hrefused bad .targetFirst
  obtain ⟨hdeclares, hspells⟩ := (hjson pair (.pair rfl rfl)).1 hpair
  rw [hgoodText] at hgood
  rw [hbadText] at hbad
  rw [hpairText] at hspells
  refine ⟨⟨.invalidFirst, hgood, ?_⟩, ⟨.targetFirst, hbad, ?_⟩, hdeclares, hspells, ?_⟩
  · rw [(hread goodText hgood).1]
    rfl
  · exact (hread' badText hbad).1
  · rw [((hjson pair.reread hdeclares).2 pairText hspells).1]
    rfl

end Config

end StatusWait
