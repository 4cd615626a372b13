/-!
# Comparing without regard to ASCII case

Two texts are alike when they differ only in the case of the twenty-six letters of
ASCII. No other letter has a case here: `É` and `é` differ, and so do `K` and the
Kelvin sign.
-/

namespace StatusWait.Text

/-- The text with its ASCII letters in upper case; every other character stays. -/
def upper (cs : List Char) : List Char := cs.map Char.toUpper

/-- Equal up to the case of ASCII letters. -/
def Alike (a b : List Char) : Prop := upper a = upper b

instance (a b : List Char) : Decidable (Alike a b) := inferInstanceAs (Decidable (upper a = upper b))

end StatusWait.Text
