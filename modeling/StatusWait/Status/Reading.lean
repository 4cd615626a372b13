import StatusWait.Text.Blank
import StatusWait.Text.Caseless
import StatusWait.Error
import StatusWait.Event

/-!
# Reading a status that a person wrote

A text names a status when it is the spelling of the status, in any mixture of ASCII
cases, with white space around it. The strict reading refuses every other text; the
lenient one takes it for the catch-all and tells the observer.
-/

namespace StatusWait.Status

variable {σ : Type} [Status σ]

/-- `text` is the spelling of `s`, up to ASCII case and surrounding white space. -/
def Names (text : String) (s : σ) : Prop :=
  Text.Alike (wire s).toList (Text.trim text.toList)

instance (text : String) (s : σ) : Decidable (Names text s) :=
  inferInstanceAs (Decidable (Text.Alike _ _))

/-- The status that a text names. The error quotes the text as it was given. -/
def readStrict (text : String) : Except SetupError σ :=
  match (all (σ := σ)).find? fun s => decide (Names text s) with
  | some s => .ok s
  | none => .error (.unknownStatus text)

/-- The status that a text names, or the catch-all with an event that carries the text. -/
def readLenient (text : String) : σ × List (Event σ) :=
  match readStrict text with
  | .ok s => (s, [])
  | .error _ => (unrecognized, [.unknownStatus text])

/-! ### Small facts -/

/-- A capital letter is its own upper case. -/
theorem toUpper_of_isUpper {c : Char} (h : c.isUpper = true) : c.toUpper = c := by
  have hle : c.toNat ≤ 90 := by
    unfold Char.isUpper at h
    exact (of_decide_eq_true h).2
  have hne : ¬ (97 ≤ c.toNat) := by omega
  unfold Char.toUpper
  split
  · next hc => exact absurd hc.1 hne
  · rfl

/-- Spellings are in capitals already. -/
theorem upper_wire (s : σ) : Text.upper (wire s).toList = (wire s).toList := by
  refine (List.map_congr_left fun c hc => ?_).trans (List.map_id _)
  exact toUpper_of_isUpper (List.all_eq_true.1 (wire_upper s) c hc)

end StatusWait.Status
