import Mathlib.Tactic

/-!
# Machine words as naturals

The operations fixed-width code applies to counters and lengths, over `ℕ`: the cast that wraps, the
saturating sum and product, and the reading of an unsigned word as a signed one. A value below
`2 ^ w` is a `w`-bit word; each operation says what happens at the boundary and nothing else.
-/

namespace Word

/-- The largest `w`-bit word. -/
def max (w : ℕ) : ℕ := 2 ^ w - 1

/-- An `as` cast to `w` bits. -/
def wrap (w n : ℕ) : ℕ := n % 2 ^ w

/-- `saturating_add` at `w` bits. -/
def satAdd (w a b : ℕ) : ℕ := min (a + b) (max w)

/-- `saturating_mul` at `w` bits. -/
def satMul (w a b : ℕ) : ℕ := min (a * b) (max w)

/-- An `as` cast from an unsigned to the signed word of the same width. -/
def toSigned (w n : ℕ) : ℤ := Int.bmod n (2 ^ w)

theorem satAdd_of_le {w a b : ℕ} (h : a + b ≤ max w) : satAdd w a b = a + b := min_eq_left h

theorem wrap_of_lt {w n : ℕ} (h : n < 2 ^ w) : wrap w n = n := Nat.mod_eq_of_lt h

/-- Reading a word as a signed one keeps the values of its lower half. -/
theorem toSigned_of_lt {w n : ℕ} (h : 2 * n < 2 ^ w) : toSigned w n = n := by
  have hlt : (n : ℤ) * 2 < (2 ^ w : ℕ) := by
    rw [Int.mul_comm]
    exact_mod_cast h
  exact Int.bmod_eq_of_le_mul_two (by omega) hlt

/-- **Saturation does not disturb a quotient below the top.** Dividing a saturated product and
comparing the quotient with `c` gives the same answer as dividing the exact product, as long as
`c * d` itself fits the word. -/
theorem le_satMul_div_iff {w a b c d : ℕ} (hd : 0 < d) (hfit : c * d ≤ max w) :
    c ≤ satMul w a b / d ↔ c * d ≤ a * b := by
  rw [Nat.le_div_iff_mul_le hd, satMul, le_min_iff]
  exact ⟨fun h ↦ h.1, fun h ↦ ⟨h, hfit⟩⟩

/-- **Saturation does not disturb a quotient that is capped below the top.** -/
theorem min_satMul_div {w a b c d : ℕ} (hd : 0 < d) (hfit : c * d ≤ max w) :
    min (satMul w a b / d) c = min (a * b / d) c := by
  refine eq_of_forall_le_iff fun k ↦ ?_
  rw [le_min_iff, le_min_iff]
  refine and_congr_left fun hk ↦ ?_
  rw [le_satMul_div_iff hd ((Nat.mul_le_mul_right d hk).trans hfit), Nat.le_div_iff_mul_le hd]

end Word
