import StatusWait.Proofs.RoundTrip

/-!
# The spellings of a snapshot

A provider need not write a snapshot as this library does. This module says which texts stand for the same
snapshot, and which texts with the members of an object stand for none.

## The model

`Node.Spelling n w v` says that the value `v` spells the node `n` with `w` in the place of its status, and
`Image.Spelling` says the same for images. An object has its fields in any order, with members of other names and
any values among them; a text that is missing is left out or `null`, tags come in any order and as often as one
likes, and no tags may be left out. An array has the fields in order of declaration, and no tags may be left out
there too. A status is named by a string, or by an object with the name as its one key and `null` as the value.
Keys and strings are given by what they decode to, so they may be written with escapes.

`Json.Faulty names members` says that a field is written twice or the status is missing.

## What is proved

* `Node.ofJson?_of_spelling`, `Image.ofJson?_of_spelling` — a spelling stands for the snapshot.
* `Node.ofJson?_of_faulty`, `Image.ofJson?_of_faulty`, `Node.ofJson?_of_null_tags` — the objects that stand for
  none.
* `spellings_read_alike` — the same of texts.
-/

namespace StatusWait

namespace Json

/-! ### How a field may be written -/

/-- The values for a text, or for the lack of one. -/
inductive Nullable : Option String → Value → Prop
  | null : Nullable none .null
  | text {t : Text} {s : String} (h : t.toString? = some s) : Nullable (some s) (.string t)

/-- The values that name a status. -/
inductive Naming (w : String) : Value → Prop
  | string {t : Text} (h : t.toString? = some w) : Naming w (.string t)
  | key {key : Text} (h : key.toString? = some w) : Naming w (.object [(key, .null)])

/-- The arrays that list tags, in any order and each as often as one likes. -/
inductive Listing (tags : TextSet) : Value → Prop
  | array {texts : List Text} {l : List String} (hl : texts.map Text.toString? = l.map some)
      (htags : ∀ t, t ∈ l ↔ t ∈ tags) : Listing tags (.array (texts.map .string))

/-- What is written of a field: nothing where it may be missing, or one of the values for it. -/
inductive Field (mayLack : Prop) (isFor : Value → Prop) : Option Value → Prop
  | leftOut (h : mayLack) : Field mayLack isFor none
  | written {v : Value} (h : isFor v) : Field mayLack isFor (some v)

/-- The fields that are not left out, with their values. -/
def written (fields : List (String × Option Value)) : List (String × Value) :=
  fields.filterMap fun f => f.2.map (f.1, ·)

/-- The members of an object write these fields in any order, with members of other names anywhere among them. -/
def Shuffled (fields : List (String × Option Value)) (members : List (Text × Value)) : Prop :=
  ∃ found others, fields? members = some found ∧ found.Perm (written fields ++ others) ∧
    ∀ f ∈ others, f.1 ∉ fields.map Prod.fst

/-- A field is written twice, or the status is missing. -/
inductive Faulty (names : List String) (members : List (Text × Value)) : Prop
  | twice {name : String} {m m' : Text × Value} (hname : name ∈ names) (hm : m.1.toString? = some name)
      (hm' : m'.1.toString? = some name) (h : [m, m'].Sublist members)
  | noStatus (h : ∀ m ∈ members, m.1.toString? ≠ some "status")

/-! ### What the values decode to -/

theorem Nullable.nullableText? {o : Option String} {v : Value} (h : Nullable o v) : v.nullableText? = some o := by
  cases h with
  | null => rfl
  | text h => exact congrArg (some <$> ·) h

theorem Naming.ofJson? {σ : Type} [Status σ] {w : String} {v : Value} (h : Naming w v) :
    Status.ofJson? v = some (Status.ofWire w : σ) := by
  have hname : v.caseName? = some w := by
    cases h with
    | string h => exact h
    | key h => exact h
  simp [Status.ofJson?, hname]

theorem Listing.list? {tags : TextSet} {v : Value} (h : Listing tags v) :
    ∃ l, v.list? Value.text? = some l ∧ TextSet.ofList l = tags := by
  cases h with
  | @array texts l hl htags =>
    refine ⟨l, ?_, TextSet.ext fun t => TextSet.mem_ofList.trans (htags t)⟩
    calc (texts.map Value.string).mapM Value.text?
        = (texts.map Text.toString?).mapM id := by rw [List.mapM_map, List.mapM_map]; rfl
      _ = some l := by rw [hl]; exact mapM_map_of_inverse (fun t => (rfl : id (some t) = some t)) l

theorem Field.nullableText?_getD {o : Option String} {v? : Option Value}
    (h : Field (o = none) (Nullable o) v?) : (v?.getD .null).nullableText? = some o := by
  cases h with
  | leftOut h =>
    subst h
    rfl
  | written h => exact h.nullableText?

/-! ### Looking up a field -/

/-- The lookup sees nothing but the members of the name, and not their order. -/
theorem field?_eq_some_of_perm {name : String} {found : List (String × Value)} {v? : Option Value}
    (h : (found.filter fun f => f.1 = name).Perm (v?.toList.map (name, ·))) : field? name found = some v? := by
  unfold field?
  cases v? with
  | none =>
    have hnil : (found.filter fun f => f.1 = name) = [] := List.perm_nil.1 h
    rw [hnil]
  | some v =>
    have hone : (found.filter fun f => f.1 = name) = [(name, v)] := List.perm_singleton.1 h
    rw [hone]

theorem filter_name_eq_nil {name : String} {found : List (String × Value)} (h : ∀ f ∈ found, f.1 ≠ name) :
    (found.filter fun f => f.1 = name) = [] :=
  List.filter_eq_nil_iff.2 fun f hf => by simpa using h f hf

theorem fst_mem_of_mem_written {fields : List (String × Option Value)} {f : String × Value}
    (h : f ∈ written fields) : f.1 ∈ fields.map Prod.fst := by
  obtain ⟨g, hg, hgf⟩ := List.mem_filterMap.1 h
  obtain ⟨v, -, rfl⟩ := Option.map_eq_some_iff.1 hgf
  exact List.mem_map_of_mem hg

theorem filter_written_of_mem {f : String × Option Value} :
    ∀ {fields : List (String × Option Value)}, (fields.map Prod.fst).Nodup → f ∈ fields →
      ((written fields).filter fun g => g.1 = f.1) = f.2.toList.map (f.1, ·)
  | g :: fields, hnodup, hf => by
    obtain ⟨hg, hrest⟩ := List.nodup_cons.1 hnodup
    have hcons : written (g :: fields) = g.2.toList.map (g.1, ·) ++ written fields := by
      obtain ⟨name, _ | v⟩ := g <;> rfl
    have hhead {m : String × Value} (hm : m ∈ g.2.toList.map (g.1, ·)) : m.1 = g.1 := by
      obtain ⟨v, -, rfl⟩ := List.mem_map.1 hm
      rfl
    rw [hcons, List.filter_append]
    -- Either the first field has the name and no other field does, or the name is among the others.
    rcases List.mem_cons.1 hf with rfl | hmem
    · have hnil : ((written fields).filter fun m => m.1 = f.1) = [] :=
        filter_name_eq_nil fun m hm e => hg (e ▸ fst_mem_of_mem_written hm)
      rw [hnil, List.append_nil]
      exact List.filter_eq_self.2 fun m hm => by simpa using hhead hm
    · have hne : g.1 ≠ f.1 := fun e => hg (e ▸ List.mem_map_of_mem hmem)
      have hnil : ((g.2.toList.map (g.1, ·)).filter fun m => m.1 = f.1) = [] :=
        filter_name_eq_nil fun m hm => hhead hm ▸ hne
      rw [hnil, List.nil_append, filter_written_of_mem hrest hmem]

theorem Shuffled.field? {fields : List (String × Option Value)} {members : List (Text × Value)}
    (h : Shuffled fields members) (hnodup : (fields.map Prod.fst).Nodup) :
    ∃ found, fields? members = some found ∧ ∀ f ∈ fields, field? f.1 found = some f.2 := by
  obtain ⟨found, others, hfound, hperm, hothers⟩ := h
  refine ⟨found, hfound, fun f hf => field?_eq_some_of_perm ?_⟩
  have hnil : (others.filter fun g => g.1 = f.1) = [] :=
    filter_name_eq_nil fun g hg e => hothers g hg (e ▸ List.mem_map_of_mem hf)
  have hfilter := hperm.filter fun g => g.1 = f.1
  rwa [List.filter_append, hnil, List.append_nil, filter_written_of_mem hnodup hf] at hfilter

/-! ### Faults -/

theorem filter_of_fields? (name : String) :
    ∀ {members : List (Text × Value)} {found : List (String × Value)}, fields? members = some found →
      (found.filter fun f => f.1 = name) =
        (members.filter fun m => m.1.toString? = some name).map fun m => (name, m.2)
  | [], _, h => by
    cases h
    rfl
  | (key, v) :: members, _, h => by
    rw [fields?_cons] at h
    obtain ⟨name', hname, h⟩ := Option.bind_eq_some_iff.1 h
    obtain ⟨found, hfound, rfl⟩ := Option.map_eq_some_iff.1 h
    have ih := filter_of_fields? name hfound
    by_cases e : name' = name
    · subst e
      simp [hname, ih]
    · simp [hname, e, ih]

variable {name : String} {members : List (Text × Value)} {found : List (String × Value)}

/-- A field that is written twice is not looked up. -/
theorem field?_of_twice (hfound : fields? members = some found) {m m' : Text × Value}
    (hm : m.1.toString? = some name) (hm' : m'.1.toString? = some name) (h : [m, m'].Sublist members) :
    field? name found = none := by
  have hsub := h.filter fun m => m.1.toString? = some name
  have hpair : [m, m'].filter (fun m => m.1.toString? = some name) = [m, m'] := by simp [hm, hm']
  rw [hpair] at hsub
  unfold field?
  rw [filter_of_fields? name hfound]
  generalize (members.filter fun m => m.1.toString? = some name) = same at hsub
  -- Two members are among those of the name, so that the lookup is in its last case.
  match same, hsub.length_le with
  | _ :: _ :: _, _ => rfl

theorem field?_of_absent (hfound : fields? members = some found)
    (h : ∀ m ∈ members, m.1.toString? ≠ some name) : field? name found = some none := by
  have hnil : (members.filter fun m => m.1.toString? = some name) = [] :=
    List.filter_eq_nil_iff.2 fun m hm => by simpa using h m hm
  unfold field?
  rw [filter_of_fields? name hfound, hnil]
  rfl

theorem Faulty.elim {names : List String} (h : Faulty names members) (hfound : fields? members = some found)
    (hnames : ∀ name ∈ names, field? name found ≠ none) (hstatus : field? "status" found ≠ some none) :
    False := by
  cases h with
  | twice hname hm hm' hsub => exact hnames _ hname (field?_of_twice hfound hm hm' hsub)
  | noStatus h => exact hstatus (field?_of_absent hfound h)

theorem field?_of_mem (hfound : fields? members = some found) {m : Text × Value} (hmem : m ∈ members)
    (hm : m.1.toString? = some name) {v? : Option Value} (h : field? name found = some v?) :
    v? = some m.2 := by
  have hf : m ∈ members.filter fun m => m.1.toString? = some name :=
    List.mem_filter.2 ⟨hmem, by simpa using hm⟩
  unfold field? at h
  rw [filter_of_fields? name hfound] at h
  generalize (members.filter fun m => m.1.toString? = some name) = same at hf h
  match same, hf with
  | [_], hf =>
    cases List.mem_singleton.1 hf
    exact (Option.some.inj h).symm

end Json

open Json (Text Value Field Nullable Naming Listing Shuffled Faulty)

/-! ### Nodes -/

namespace Node

/-- The names of the fields of a node, in order of declaration. -/
def names : List String := ["id", "name", "hostname", "status", "tags"]

/-- The values that spell a node, with `w` in the place of its status. -/
inductive Spelling (n : Node) (w : String) : Value → Prop
  | object {id name hostname tags : Option Value} {status : Value} {members : List (Text × Value)}
      (hid : Field (n.id = none) (Nullable n.id) id) (hname : Field (n.name = none) (Nullable n.name) name)
      (hhostname : Field (n.hostname = none) (Nullable n.hostname) hostname) (hstatus : Naming w status)
      (htags : Field (n.tags = .empty) (Listing n.tags) tags)
      (hmembers : Shuffled [("id", id), ("name", name), ("hostname", hostname), ("status", some status),
        ("tags", tags)] members) : Spelling n w (.object members)
  | array {id name hostname status : Value} {tags : Option Value} (hid : Nullable n.id id)
      (hname : Nullable n.name name) (hhostname : Nullable n.hostname hostname) (hstatus : Naming w status)
      (htags : Field (n.tags = .empty) (Listing n.tags) tags) :
      Spelling n w (.array ([id, name, hostname, status] ++ tags.toList))

theorem ofFields?_of_spelled {n : Node} {w : String} {id name hostname status : Value} {tags : Option Value}
    (hid : id.nullableText? = some n.id) (hname : name.nullableText? = some n.name)
    (hhostname : hostname.nullableText? = some n.hostname) (hstatus : Naming w status)
    (htags : Field (n.tags = .empty) (Listing n.tags) tags) :
    ofFields? id name hostname status tags = some { n with status := Status.ofWire w } := by
  have hstatus' : Status.ofJson? status = some (Status.ofWire w : NodeStatus) := hstatus.ofJson?
  unfold ofFields?
  rw [hid, hname, hhostname, hstatus']
  cases htags with
  | leftOut h => simp [h, TextSet.ofList]
  | written h =>
    obtain ⟨l, hl, hset⟩ := h.list?
    simp [hl, hset]

/-- What an object has to hold to stand for a node. -/
theorem ofJson?_object_eq_some_iff {members : List (Text × Value)} {n : Node} :
    ofJson? (.object members) = some n ↔
      ∃ found id name hostname status tags, Json.fields? members = some found ∧
        Json.field? "id" found = some id ∧ Json.field? "name" found = some name ∧
        Json.field? "hostname" found = some hostname ∧ Json.field? "status" found = some (some status) ∧
        Json.field? "tags" found = some tags ∧
        ofFields? (id.getD .null) (name.getD .null) (hostname.getD .null) status tags = some n := by
  simp only [ofJson?, Option.bind_eq_bind, Option.bind_eq_some_iff]
  constructor
  · rintro ⟨found, hfound, id, hid, name, hname, hostname, hhostname, status?, hstatus, tags, htags, status, rfl,
      h⟩
    exact ⟨found, id, name, hostname, status, tags, hfound, hid, hname, hhostname, hstatus, htags, h⟩
  · rintro ⟨found, id, name, hostname, status, tags, hfound, hid, hname, hhostname, hstatus, htags, h⟩
    exact ⟨found, hfound, id, hid, name, hname, hostname, hhostname, some status, hstatus, tags, htags, status,
      rfl, h⟩

/-- **A spelling stands for the node**, with the status that it names. -/
theorem ofJson?_of_spelling {n : Node} {w : String} {v : Value} (h : n.Spelling w v) :
    ofJson? v = some { n with status := Status.ofWire w } := by
  cases h with
  | object hid hname hhostname hstatus htags hmembers =>
    have hnodup : names.Nodup := by decide
    obtain ⟨found, hfound, hfield⟩ := hmembers.field? hnodup
    simp only [List.forall_mem_cons, List.not_mem_nil, false_implies, implies_true, and_true] at hfield
    obtain ⟨hid', hname', hhostname', hstatus', htags'⟩ := hfield
    refine ofJson?_object_eq_some_iff.2
      ⟨found, _, _, _, _, _, hfound, hid', hname', hhostname', hstatus', htags', ?_⟩
    exact ofFields?_of_spelled hid.nullableText?_getD hname.nullableText?_getD hhostname.nullableText?_getD
      hstatus htags
  | @array id name hostname status tags hid hname hhostname hstatus htags =>
    have hfields := ofFields?_of_spelled hid.nullableText? hname.nullableText? hhostname.nullableText?
      hstatus htags
    cases tags with
    | none => exact hfields
    | some v => exact hfields

/-- **A field that is written twice or a status that is missing spoils a node.** -/
theorem ofJson?_of_faulty {members : List (Text × Value)} (h : Faulty names members) :
    ofJson? (.object members) = none := by
  refine Option.eq_none_iff_forall_ne_some.2 fun n hn => ?_
  obtain ⟨found, id, name, hostname, status, tags, hfound, hid, hname, hhostname, hstatus, htags, -⟩ :=
    ofJson?_object_eq_some_iff.1 hn
  refine h.elim hfound ?_ (by simp [hstatus])
  simp [names, hid, hname, hhostname, hstatus, htags]

/-- **Tags that are `null` spoil a node.** -/
theorem ofJson?_of_null_tags {members : List (Text × Value)} {key : Text}
    (hkey : key.toString? = some "tags") (h : (key, Value.null) ∈ members) :
    ofJson? (.object members) = none := by
  refine Option.eq_none_iff_forall_ne_some.2 fun n hn => ?_
  obtain ⟨found, id, name, hostname, status, tags, hfound, -, -, -, -, htags, hn⟩ :=
    ofJson?_object_eq_some_iff.1 hn
  obtain rfl : tags = some .null := Json.field?_of_mem hfound h hkey htags
  simp [ofFields?, Value.list?] at hn

end Node

/-! ### Images -/

namespace Image

/-- The names of the fields of an image, in order of declaration. -/
def names : List String := ["id", "name", "description", "status"]

/-- The values that spell an image, with `w` in the place of its status. -/
inductive Spelling (i : Image) (w : String) : Value → Prop
  | object {id name description : Option Value} {status : Value} {members : List (Text × Value)}
      (hid : Field (i.id = none) (Nullable i.id) id) (hname : Field (i.name = none) (Nullable i.name) name)
      (hdescription : Field (i.description = none) (Nullable i.description) description)
      (hstatus : Naming w status)
      (hmembers : Shuffled [("id", id), ("name", name), ("description", description), ("status", some status)]
        members) : Spelling i w (.object members)
  | array {id name description status : Value} (hid : Nullable i.id id) (hname : Nullable i.name name)
      (hdescription : Nullable i.description description) (hstatus : Naming w status) :
      Spelling i w (.array [id, name, description, status])

theorem ofFields?_of_spelled {i : Image} {w : String} {id name description status : Value}
    (hid : id.nullableText? = some i.id) (hname : name.nullableText? = some i.name)
    (hdescription : description.nullableText? = some i.description) (hstatus : Naming w status) :
    ofFields? id name description status = some { i with status := Status.ofWire w } := by
  have hstatus' : Status.ofJson? status = some (Status.ofWire w : ImageStatus) := hstatus.ofJson?
  unfold ofFields?
  rw [hid, hname, hdescription, hstatus']
  rfl

/-- What an object has to hold to stand for an image. -/
theorem ofJson?_object_eq_some_iff {members : List (Text × Value)} {i : Image} :
    ofJson? (.object members) = some i ↔
      ∃ found id name description status, Json.fields? members = some found ∧
        Json.field? "id" found = some id ∧ Json.field? "name" found = some name ∧
        Json.field? "description" found = some description ∧ Json.field? "status" found = some (some status) ∧
        ofFields? (id.getD .null) (name.getD .null) (description.getD .null) status = some i := by
  simp only [ofJson?, Option.bind_eq_bind, Option.bind_eq_some_iff]
  constructor
  · rintro ⟨found, hfound, id, hid, name, hname, description, hdescription, status?, hstatus, status, rfl, h⟩
    exact ⟨found, id, name, description, status, hfound, hid, hname, hdescription, hstatus, h⟩
  · rintro ⟨found, id, name, description, status, hfound, hid, hname, hdescription, hstatus, h⟩
    exact ⟨found, hfound, id, hid, name, hname, description, hdescription, some status, hstatus, status, rfl, h⟩

/-- **A spelling stands for the image**, with the status that it names. -/
theorem ofJson?_of_spelling {i : Image} {w : String} {v : Value} (h : i.Spelling w v) :
    ofJson? v = some { i with status := Status.ofWire w } := by
  cases h with
  | object hid hname hdescription hstatus hmembers =>
    have hnodup : names.Nodup := by decide
    obtain ⟨found, hfound, hfield⟩ := hmembers.field? hnodup
    simp only [List.forall_mem_cons, List.not_mem_nil, false_implies, implies_true, and_true] at hfield
    obtain ⟨hid', hname', hdescription', hstatus'⟩ := hfield
    refine ofJson?_object_eq_some_iff.2 ⟨found, _, _, _, _, hfound, hid', hname', hdescription', hstatus', ?_⟩
    exact ofFields?_of_spelled hid.nullableText?_getD hname.nullableText?_getD hdescription.nullableText?_getD
      hstatus
  | array hid hname hdescription hstatus =>
    exact ofFields?_of_spelled hid.nullableText? hname.nullableText? hdescription.nullableText? hstatus

/-- **A field that is written twice or a status that is missing spoils an image.** -/
theorem ofJson?_of_faulty {members : List (Text × Value)} (h : Faulty names members) :
    ofJson? (.object members) = none := by
  refine Option.eq_none_iff_forall_ne_some.2 fun i hi => ?_
  obtain ⟨found, id, name, description, status, hfound, hid, hname, hdescription, hstatus, -⟩ :=
    ofJson?_object_eq_some_iff.1 hi
  refine h.elim hfound ?_ (by simp [hstatus])
  simp [names, hid, hname, hdescription, hstatus]

end Image

/-! ### Texts -/

open Snapshot (read?)

theorem Snapshot.read?_of_read {S σ : Type} [Snapshot S σ] {text : String} {v : Value}
    (h : Json.read text = some v) : (read? text : Option S) = ofJson? v := by
  rw [read?, h]
  rfl

/-- **Spellings are read alike.** A text that spells a value is read as the value. Whatever text is read as a value
that spells a snapshot is read as the snapshot; where it names no status of the kind, it is read as the snapshot
with the catch-all for its status. A text that is read as an object with a field that comes twice, with no status
or, for a node, with `null` for its tags is no snapshot. -/
theorem spellings_read_alike :
    (∀ (text : String) (v : Value), Json.Spells text.toList v.tokens [] → Json.read text = some v) ∧
    ∀ (text : String) (v : Value), Json.read text = some v →
      (∀ n : Node, n.Spelling (Status.wire n.status) v → read? text = some n) ∧
      (∀ i : Image, i.Spelling (Status.wire i.status) v → read? text = some i) ∧
      (∀ (n : Node) (w : String), (∀ s : NodeStatus, Status.wire s ≠ w) → n.Spelling w v →
        read? text = some { n with status := .unrecognized }) ∧
      (∀ (i : Image) (w : String), (∀ s : ImageStatus, Status.wire s ≠ w) → i.Spelling w v →
        read? text = some { i with status := .unrecognized }) ∧
      ∀ members, v = .object members →
        (Faulty Node.names members → (read? text : Option Node) = none) ∧
        (∀ key : Text, key.toString? = some "tags" → (key, .null) ∈ members →
          (read? text : Option Node) = none) ∧
        (Faulty Image.names members → (read? text : Option Image) = none) := by
  refine ⟨fun text v h => ?_, fun text v hv => ?_⟩
  · rw [Json.read, Json.readFirst_of_spells h]
  have hnode : (read? text : Option Node) = Node.ofJson? v := Snapshot.read?_of_read hv
  have himage : (read? text : Option Image) = Image.ofJson? v := Snapshot.read?_of_read hv
  refine ⟨fun n h => ?_, fun i h => ?_, fun n w hw h => ?_, fun i w hw h => ?_, ?_⟩
  · rw [hnode, Node.ofJson?_of_spelling h, Status.ofWire_wire]
  · rw [himage, Image.ofJson?_of_spelling h, Status.ofWire_wire]
  · rw [hnode, Node.ofJson?_of_spelling h, Status.ofWire_eq_unrecognized hw]
    rfl
  · rw [himage, Image.ofJson?_of_spelling h, Status.ofWire_eq_unrecognized hw]
    rfl
  · rintro members rfl
    rw [hnode, himage]
    exact ⟨Node.ofJson?_of_faulty, fun _ hkey hmem => Node.ofJson?_of_null_tags hkey hmem,
      Image.ofJson?_of_faulty⟩

/-- A node is read from an object with its fields in the opposite order, a member of another name between them, a
repeated tag, an escape in a key and a status that is a key, and one without tags from an array with a status of no
kind. An image is read from its status alone. A field that comes twice under two spellings, a status that is missing
and tags that are `null` are refused. -/
theorem spellings_read_alike_of_a_few :
    let n : Node := ⟨some "A", none, none, .running, .ofList ["a", "b"]⟩
    let array : Value := .array [.nullable (some "A"), .nullable none, .nullable none, .nullable (some "GONE")]
    read? "\x7B\"tags\":[\"b\",\"a\", \"b\"],\"x\":[\x7B\x7D],\"status\":\x7B\"RUNNING\":null\x7D,\"\\u0069d\":\"A\"\x7D" =
      some n ∧
    Json.Spells array.toText.toList array.tokens [] ∧
    read? array.toText = some { n with status := .unrecognized, tags := .empty } ∧
    read? "\x7B\"status\":\"AVAILABLE\"\x7D" = some (Image.unidentified .available) ∧
    read? "\x7B\"status\":\"GONE\"\x7D" = some (Image.unidentified .unrecognized) ∧
    (read? "\x7B\"id\":1,\"status\":\"RUNNING\",\"\\u0069d\":null\x7D" : Option Node) = none ∧
    (read? "\x7B\"id\":1,\"status\":\"RUNNING\",\"\\u0069d\":null\x7D" : Option Image) = none ∧
    (read? "\x7B\"tags\":null,\"status\":\"RUNNING\"\x7D" : Option Node) = none ∧
    (read? "\x7B\"id\":\"A\"\x7D" : Option Image) = none := by
  intro n array
  obtain ⟨hspells, hread⟩ := spellings_read_alike
  have hnaming (w : String) : Naming w (.string (.ofString w)) := .string (Text.toString?_ofString w)
  have htext (s : String) : Nullable (some s) (.string (.ofString s)) := .text (Text.toString?_ofString s)
  have hgone (s : NodeStatus) : Status.wire s ≠ "GONE" := by cases s <;> decide
  have hgone' (s : ImageStatus) : Status.wire s ≠ "GONE" := by cases s <;> decide
  have harray : Json.Spells array.toText.toList array.tokens [] := by
    refine (Value.WellFormed.array ?_ : array.WellFormed).spells_toText
    simp [Json.Value.wellFormed_nullable]
  have himage (w : String) : (Image.unidentified .available).Spelling w
      (.object [(.ofString "status", .string (.ofString w))]) :=
    .object (.leftOut rfl) (.leftOut rfl) (.leftOut rfl) (hnaming w)
      ⟨[("status", .string (.ofString w))], [], rfl, .refl _, nofun⟩
  let tags : Value := .array ([.ofString "b", .ofString "a", .ofString "b"].map .string)
  let other : Value := .array [.object []]
  let status : Value := .object [(.ofString "RUNNING", .null)]
  let id : Value := .string (.ofString "A")
  have htags : Listing n.tags tags := .array (l := ["b", "a", "b"]) rfl fun t => by
    rw [TextSet.mem_ofList]
    simp only [List.mem_cons, List.not_mem_nil, or_false]
    grind
  have hshuffled : Shuffled
      [("id", some id), ("name", none), ("hostname", none), ("status", some status), ("tags", some tags)]
      [(.ofString "tags", tags), (.ofString "x", other), (.ofString "status", status),
        ([.unit 0x69, .char 'd'], id)] :=
    ⟨[("tags", tags), ("x", other), ("status", status), ("id", id)], [("x", other)], rfl,
      (List.Perm.swap _ _ _).trans (List.reverse_perm
        [("id", id), ("status", status), ("tags", tags), ("x", other)]), by simp⟩
  have hobject : n.Spelling "RUNNING" (.object _) :=
    .object (.written (htext "A")) (.leftOut rfl) (.leftOut rfl) (.key (Text.toString?_ofString _))
      (.written htags) hshuffled
  have htwice (names : List String) (h : "id" ∈ names) : Faulty names
      [(.ofString "id", .number ['1']), (.ofString "status", .string (.ofString "RUNNING")),
        ([.unit 0x69, .char 'd'], .null)] :=
    .twice h rfl rfl (.cons_cons _ (.cons _ (.cons_cons _ .slnil)))
  refine ⟨(hread _ _ rfl).1 n hobject, harray, ?_, ?_, ?_, ?_, ?_, ?_, ?_⟩
  · exact (hread _ array (hspells _ _ harray)).2.2.1 { n with tags := .empty } "GONE" hgone
      (.array (htext "A") .null .null (hnaming "GONE") (.leftOut rfl))
  · exact (hread _ _ rfl).2.1 (.unidentified .available) (himage "AVAILABLE")
  · exact (hread _ _ rfl).2.2.2.1 (.unidentified .available) "GONE" hgone' (himage "GONE")
  · exact ((hread _ _ rfl).2.2.2.2 _ rfl).1 (htwice Node.names (by decide))
  · exact ((hread _ _ rfl).2.2.2.2 _ rfl).2.2 (htwice Image.names (by decide))
  · exact ((hread _ _ rfl).2.2.2.2 [(.ofString "tags", .null), (.ofString "status", .string (.ofString "RUNNING"))]
      rfl).2.1 (.ofString "tags") (Text.toString?_ofString _) List.mem_cons_self
  · exact ((hread _ _ rfl).2.2.2.2 [(.ofString "id", .string (.ofString "A"))] rfl).2.2 (.noStatus (by simp))

end StatusWait
