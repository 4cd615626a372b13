/-!
# Strings inside JSON texts

A JSON string is written as characters and as escapes `\uXXXX`, each of which names a
UTF-16 code unit. A character beyond U+FFFF is escaped as two units, a high surrogate
and a low one; the grammar lets a surrogate stand alone, although it is then no
character at all.

## The model

The content of a JSON string is a list of pieces, characters and units, in the order
they are written. `decode` reads it as characters: it joins each high surrogate with
the low surrogate right behind it, and refuses a surrogate without its partner. A
reader that only skips a string does not decode it.
-/

namespace StatusWait.Json

/-- One element of a JSON string. -/
inductive Piece
  | char (c : Char)
  /-- A UTF-16 code unit, written as `\uXXXX`. -/
  | unit (u : Nat)
deriving DecidableEq, Repr

/-- The content of a JSON string. -/
abbrev Text := List Piece

/-- The first unit of a pair. -/
def isHigh (u : Nat) : Bool := 0xD800 ≤ u && u ≤ 0xDBFF

/-- The second unit of a pair. -/
def isLow (u : Nat) : Bool := 0xDC00 ≤ u && u ≤ 0xDFFF

/-- The character that a pair of units stands for. -/
def joinUnits (high low : Nat) : Char :=
  Char.ofNat (0x10000 + (high - 0xD800) * 0x400 + (low - 0xDC00))

namespace Text

/-- The characters of a string; none if a surrogate lacks its partner. -/
def decode : Text → Option (List Char)
  | [] => some []
  | .char c :: rest => (c :: ·) <$> decode rest
  | .unit u :: .unit v :: rest =>
      if isHigh u then
        if isLow v then (joinUnits u v :: ·) <$> decode rest else none
      else if isLow u then none
      else (Char.ofNat u :: ·) <$> decode (.unit v :: rest)
  | .unit u :: rest =>
      if isHigh u || isLow u then none else (Char.ofNat u :: ·) <$> decode rest

/-- The string that is written, if it is a string of characters. -/
def toString? (t : Text) : Option String := String.ofList <$> decode t

/-- A string of characters, written without units. -/
def ofString (s : String) : Text := s.toList.map .char

/-! ### Small facts -/

theorem decode_map_char (cs : List Char) : decode (cs.map .char) = some cs := by
  induction cs with
  | nil => rfl
  | cons c cs ih => simp [decode, ih]

/-- Characters decode to themselves. -/
@[simp] theorem toString?_ofString (s : String) : (ofString s).toString? = some s := by
  simp [toString?, ofString, decode_map_char]

end Text

end StatusWait.Json
