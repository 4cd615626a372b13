/-!
# Saturating counters

A counter of sixty-four bits that stays at its greatest value once it is there.
-/

namespace StatusWait

/-- One more, unless the counter is full. -/
def bump (n : UInt64) : UInt64 := if n = 0xFFFFFFFFFFFFFFFF then n else n + 1

/-- The greatest value of a counter of sixty-four bits. -/
def counterMax : Nat := 0xFFFFFFFFFFFFFFFF

/-- A counter counts up to its greatest value and stays there. -/
theorem toNat_bump (n : UInt64) : (bump n).toNat = min (n.toNat + 1) counterMax := by
  have hn := n.toNat_lt
  unfold bump counterMax
  split
  · next h => subst h; decide
  · next h =>
    have hne : n.toNat ≠ 0xFFFFFFFFFFFFFFFF := fun e => h (UInt64.toNat_inj.1 e)
    rw [UInt64.toNat_add, UInt64.toNat_one]
    omega

end StatusWait
