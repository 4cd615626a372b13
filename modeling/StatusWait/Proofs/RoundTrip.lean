import StatusWait.Proofs.Json.Written
import StatusWait.Snapshot.Image
import StatusWait.Snapshot.Node

/-!
# Snapshots as text

A snapshot is written as one line of JSON and read from any JSON text of its shape. The two agree: what
was written is read as the snapshot that it was written for, whatever characters its texts hold.

## The model

`Faithful S` says of a kind of snapshot that its JSON form can be written, that its decoder does not see
what writing does to a value, and that the form of a snapshot is decoded as the snapshot. `listed?` gives
the fields of a text, names and values, in the order in which the text lists them.

## What is proved

* `Faithful.read?_toText` — a snapshot is read from its text, for every kind of which this is known.
* `Node.faithful` and `Image.faithful` — it is known of both kinds.
* `texts_stand_for_snapshots` — the text of a snapshot is read as the snapshot, equal texts are those of
  equal snapshots, a snapshot read from any spelling is read again from its own text, and the fields stand
  in the order of their declaration with the tags ascending.
-/

namespace StatusWait

open Json (Value Text)

/-! ### Records -/

namespace Json

theorem Value.wellFormed_nullable : ∀ s : Option String, (Value.nullable s).WellFormed
  | none => .null
  | some s => .string (Text.readable_ofString s)

@[simp] theorem Value.nullableText?_nullable : ∀ s : Option String, (Value.nullable s).nullableText? = some s
  | none => rfl
  | some s => nullableText?_string s

theorem Value.nullableText?_reread_nullable (s : Option String) :
    (Value.nullable s).reread.nullableText? = some s := by
  rw [nullableText?_reread, nullableText?_nullable]

/-- An object with a text of characters for each key. -/
def record (fields : List (String × Value)) : Value :=
  .object (fields.map fun f => (.ofString f.1, f.2))

theorem wellFormed_record {fields : List (String × Value)} (h : ∀ f ∈ fields, f.2.WellFormed) :
    (record fields).WellFormed := by
  refine .object (fun m hm => ?_) (fun m hm => ?_)
  · obtain ⟨f, -, rfl⟩ := List.mem_map.1 hm
    exact Text.readable_ofString f.1
  · obtain ⟨f, hf, rfl⟩ := List.mem_map.1 hm
    exact h f hf

theorem mapM_map_of_inverse {α β : Type} {decode : β → Option α} {encode : α → β}
    (h : ∀ a, decode (encode a) = some a) (l : List α) : (l.map encode).mapM decode = some l := by
  induction l with
  | nil => rfl
  | cons a l ih =>
    rw [List.map_cons, List.mapM_cons, h, ih]
    rfl

theorem fields?_record (fields : List (String × Value)) :
    fields? (fields.map fun f => (.ofString f.1, f.2)) = some fields :=
  mapM_map_of_inverse (fun f => by simp) fields

/-- The fields that a text lists: the members of the object that it is, in the order of the text. -/
def listed? (text : String) : Option (List (String × Value)) :=
  match read text with
  | some (.object members) => fields? members
  | _ => none

/-- A record that was written lists its fields in the order in which it has them. -/
theorem listed?_toText_record {fields : List (String × Value)} (h : ∀ f ∈ fields, f.2.WellFormed) :
    listed? (record fields).toText = some (fields.map fun f => (f.1, f.2.reread)) := by
  rw [listed?, read_toText (wellFormed_record h), record, Value.reread_object]
  show fields? _ = _
  rw [fields?_reread, fields?_record]
  rfl

theorem getD_reread (v : Option Value) : (v.map Value.reread).getD .null = (v.getD .null).reread := by
  cases v <;> rfl

theorem list?_strings (texts : List String) :
    (Value.array (texts.map fun t => .string (.ofString t))).list? Value.text? = some texts :=
  mapM_map_of_inverse text?_string texts

theorem list?_reread_strings (texts : List String) :
    (Value.array (texts.map fun t => .string (.ofString t))).reread.list? Value.text? = some texts := by
  rw [Value.list?_reread Value.text?_reread, list?_strings]

theorem wellFormed_strings (texts : List String) :
    (Value.array (texts.map fun t => .string (.ofString t))).WellFormed := by
  refine .array fun v hv => ?_
  obtain ⟨t, -, rfl⟩ := List.mem_map.1 hv
  exact .string (Text.readable_ofString t)

end Json

/-! ### Statuses -/

namespace Status

variable {σ : Type} [Status σ]

@[simp] theorem ofJson?_reread (v : Value) : (ofJson? v.reread : Option σ) = ofJson? v := by
  rw [ofJson?, Value.caseName?_reread, ofJson?]

theorem text?_reread_toJson (s : σ) : (toJson s).reread.text? = some (wire s) := by
  rw [Value.text?_reread, toJson, Json.text?_string]

theorem wellFormed_toJson (s : σ) : (toJson s).WellFormed := .string (Text.readable_ofString (wire s))

end Status

/-! ### Any kind of snapshot -/

namespace Snapshot

/-- Writing and decoding of a kind of snapshots fit together. -/
structure Faithful (S : Type) {σ : Type} [Snapshot S σ] : Prop where
  /-- Each snapshot can be written. -/
  wellFormed : ∀ s : S, (toJson s).WellFormed
  /-- The decoder does not see what writing does to a value. -/
  ofJson?_reread : ∀ v : Value, (ofJson? v.reread : Option S) = ofJson? v
  /-- The JSON form of a snapshot stands for the snapshot. -/
  ofJson?_toJson : ∀ s : S, ofJson? (toJson s) = some s

namespace Faithful

variable {S σ : Type} [Snapshot S σ]

/-- **The text of a snapshot is read as the snapshot.** -/
theorem read?_toText (h : Faithful S) (s : S) : read? (toText s) = some s := by
  have hread : Json.read (toText s) = some (toJson s).reread := Json.read_toText (h.wellFormed s)
  rw [read?, hread]
  exact (h.ofJson?_reread _).trans (h.ofJson?_toJson s)

theorem toText_inj (h : Faithful S) {s t : S} : toText s = toText t ↔ s = t := by
  constructor
  · intro htext
    have hsome : some s = some t := by rw [← h.read?_toText s, htext, h.read?_toText t]
    exact Option.some.inj hsome
  · rintro rfl
    rfl

end Faithful

end Snapshot

/-! ### Nodes -/

namespace Node

/-- The fields of a node in order of declaration. -/
def fields (n : Node) : List (String × Value) :=
  [("id", .nullable n.id), ("name", .nullable n.name), ("hostname", .nullable n.hostname),
    ("status", Status.toJson n.status), ("tags", .array (n.tags.elems.map fun t => .string (.ofString t)))]

theorem ofFields?_reread (id name hostname status : Value) (tags : Option Value) :
    ofFields? id.reread name.reread hostname.reread status.reread (tags.map Value.reread) =
      ofFields? id name hostname status tags := by
  unfold ofFields?
  rw [Value.nullableText?_reread, Value.nullableText?_reread, Value.nullableText?_reread,
    Status.ofJson?_reread]
  cases tags with
  | none => rfl
  | some v => simp only [Option.map_some, Value.list?_reread Value.text?_reread]

theorem ofJson?_reread (v : Value) : ofJson? v.reread = ofJson? v := by
  cases v with
  | object members =>
    rw [Value.reread_object]
    simp only [ofJson?, Json.fields?_reread, Json.field?_reread, Json.getD_reread, ofFields?_reread,
      Option.bind_eq_bind, Option.bind_map, Function.comp_def]
  | array items =>
    rw [Value.reread_array]
    match items with
    | [id, name, hostname, status] => exact ofFields?_reread id name hostname status none
    | [id, name, hostname, status, tags] => exact ofFields?_reread id name hostname status (some tags)
    | [] | [_] | [_, _] | [_, _, _] | _ :: _ :: _ :: _ :: _ :: _ :: _ => rfl
  | null | bool | number | string => rfl

theorem wellFormed_fields (n : Node) : ∀ f ∈ n.fields, f.2.WellFormed := by
  simp [fields, Json.Value.wellFormed_nullable, Status.wellFormed_toJson, Json.wellFormed_strings]

theorem ofJson?_toJson (n : Node) : ofJson? n.toJson = some n := by
  have hfields : ofFields? (.nullable n.id) (.nullable n.name) (.nullable n.hostname)
      (Status.toJson n.status) (some (.array (n.tags.elems.map fun t => .string (.ofString t)))) = some n := by
    simp [ofFields?, Json.list?_strings]
  have hrecord : n.toJson = Json.record n.fields := rfl
  rw [hrecord, Json.record, ofJson?, Json.fields?_record]
  exact hfields

theorem faithful : Snapshot.Faithful Node :=
  ⟨fun n => Json.wellFormed_record n.wellFormed_fields, ofJson?_reread, ofJson?_toJson⟩

end Node

/-! ### Images -/

namespace Image

/-- The fields of an image in order of declaration. -/
def fields (i : Image) : List (String × Value) :=
  [("id", .nullable i.id), ("name", .nullable i.name), ("description", .nullable i.description),
    ("status", Status.toJson i.status)]

theorem ofFields?_reread (id name description status : Value) :
    ofFields? id.reread name.reread description.reread status.reread =
      ofFields? id name description status := by
  unfold ofFields?
  rw [Value.nullableText?_reread, Value.nullableText?_reread, Value.nullableText?_reread,
    Status.ofJson?_reread]

theorem ofJson?_reread (v : Value) : ofJson? v.reread = ofJson? v := by
  cases v with
  | object members =>
    rw [Value.reread_object]
    simp only [ofJson?, Json.fields?_reread, Json.field?_reread, Json.getD_reread, ofFields?_reread,
      Option.bind_eq_bind, Option.bind_map, Function.comp_def]
  | array items =>
    rw [Value.reread_array]
    match items with
    | [id, name, description, status] => exact ofFields?_reread id name description status
    | [] | [_] | [_, _] | [_, _, _] | _ :: _ :: _ :: _ :: _ :: _ => rfl
  | null | bool | number | string => rfl

theorem wellFormed_fields (i : Image) : ∀ f ∈ i.fields, f.2.WellFormed := by
  simp [fields, Json.Value.wellFormed_nullable, Status.wellFormed_toJson]

theorem ofJson?_toJson (i : Image) : ofJson? i.toJson = some i := by
  have hfields : ofFields? (.nullable i.id) (.nullable i.name) (.nullable i.description)
      (Status.toJson i.status) = some i := by
    simp [ofFields?]
  have hrecord : i.toJson = Json.record i.fields := rfl
  rw [hrecord, Json.record, ofJson?, Json.fields?_record]
  exact hfields

theorem faithful : Snapshot.Faithful Image :=
  ⟨fun i => Json.wellFormed_record i.wellFormed_fields, ofJson?_reread, ofJson?_toJson⟩

end Image

/-! ### The order of fields and tags -/

/-- The code points of a text. -/
def codePoints (t : String) : List Nat := t.toList.map Char.toNat

theorem codePoints_lt {s t : String} (h : s < t) : codePoints s < codePoints t :=
  List.map_lt (fun _ _ hab => hab) h

namespace TextSet

/-- The elements of a set come in strictly ascending order of code points. -/
theorem ascending_codePoints (t : TextSet) : (t.elems.map codePoints).Pairwise (· < ·) :=
  List.pairwise_map.2 (t.ascending.imp codePoints_lt)

end TextSet

open Snapshot (read? toText)
open Json (listed?)

theorem Node.listed?_toText (n : Node) :
    listed? (toText n) = some (n.fields.map fun f => (f.1, f.2.reread)) := by
  have htext : toText n = (Json.record n.fields).toText := rfl
  rw [htext, Json.listed?_toText_record n.wellFormed_fields]

theorem Image.listed?_toText (i : Image) :
    listed? (toText i) = some (i.fields.map fun f => (f.1, f.2.reread)) := by
  have htext : toText i = (Json.record i.fields).toText := rfl
  rw [htext, Json.listed?_toText_record i.wellFormed_fields]

/-- **Texts stand for snapshots.** The text of a snapshot is read as the snapshot, so that two snapshots are
equal exactly if their texts are; whatever text a snapshot was read from, it is read again from its own.
The text lists the fields in order of declaration, and the tags in strictly ascending order of code points,
each once. -/
theorem texts_stand_for_snapshots :
    (∀ n : Node, read? (toText n) = some n) ∧ (∀ i : Image, read? (toText i) = some i) ∧
    (∀ m n : Node, m = n ↔ toText m = toText n) ∧ (∀ i j : Image, i = j ↔ toText i = toText j) ∧
    (∀ (text : String) (n : Node), read? text = some n → read? (toText n) = some n) ∧
    (∀ (text : String) (i : Image), read? text = some i → read? (toText i) = some i) ∧
    (∀ n : Node, ∃ (id name hostname status tags : Value) (written : List String),
      listed? (toText n) =
        some [("id", id), ("name", name), ("hostname", hostname), ("status", status), ("tags", tags)] ∧
      id.nullableText? = some n.id ∧ name.nullableText? = some n.name ∧
      hostname.nullableText? = some n.hostname ∧ status.text? = some (Status.wire n.status) ∧
      tags.list? Value.text? = some written ∧ (written.map codePoints).Pairwise (· < ·) ∧
      ∀ t, t ∈ written ↔ t ∈ n.tags) ∧
    ∀ i : Image, ∃ id name description status : Value,
      listed? (toText i) =
        some [("id", id), ("name", name), ("description", description), ("status", status)] ∧
      id.nullableText? = some i.id ∧ name.nullableText? = some i.name ∧
      description.nullableText? = some i.description ∧ status.text? = some (Status.wire i.status) := by
  have hnode := Node.faithful
  have himage := Image.faithful
  refine ⟨hnode.read?_toText, himage.read?_toText, fun _ _ => hnode.toText_inj.symm,
    fun _ _ => himage.toText_inj.symm, fun _ n _ => hnode.read?_toText n,
    fun _ i _ => himage.read?_toText i, fun n => ?_, fun i => ?_⟩
  · exact ⟨_, _, _, _, _, n.tags.elems, n.listed?_toText, Value.nullableText?_reread_nullable n.id,
      Value.nullableText?_reread_nullable n.name, Value.nullableText?_reread_nullable n.hostname,
      Status.text?_reread_toJson n.status, Json.list?_reread_strings n.tags.elems,
      n.tags.ascending_codePoints, fun _ => Iff.rfl⟩
  · exact ⟨_, _, _, _, i.listed?_toText, Value.nullableText?_reread_nullable i.id,
      Value.nullableText?_reread_nullable i.name, Value.nullableText?_reread_nullable i.description,
      Status.text?_reread_toJson i.status⟩

/-- A node with a control character in its identity. -/
def markedNode : Node := ⟨some "A\x01", none, none, .unrecognized, .ofList ["a", "z"]⟩

/-- It is read from a text with white space, escapes, a member of another name, a repeated tag and a status that
no kind has, and then from a text of its own. -/
theorem texts_stand_for_snapshots_of_marked_node :
    read? "\x7B \"id\":\"\\u0041\\u0001\", \"tags\":[\"z\",\"a\",\"z\"], \"a\":[-1], \"status\":\"x\"\x7D" =
        some markedNode ∧
      read? (toText markedNode) = some markedNode := by
  have hread : read?
      "\x7B \"id\":\"\\u0041\\u0001\", \"tags\":[\"z\",\"a\",\"z\"], \"a\":[-1], \"status\":\"x\"\x7D" =
        some markedNode := by
    decide +kernel
  obtain ⟨-, -, -, -, hagain, -⟩ := texts_stand_for_snapshots
  exact ⟨hread, hagain _ markedNode hread⟩

end StatusWait
