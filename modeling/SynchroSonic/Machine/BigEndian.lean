import Mathlib.Tactic

/-!
# Big-endian fields of any width

`toBe w n` is the low `w` bytes of `n`, most significant first, and `fromBe` reads a byte string
back as a number. Both recurse on the least significant end, so the two round trips
(`fromBe_toBe`, `toBe_fromBe`) are one induction each and no width is special.
-/

namespace BigEndian

/-- The `w` low-order bytes of `n`, most significant byte first. Higher bytes are cut off, as an
`as` cast to a narrower integer does. -/
def toBe : ℕ → ℕ → List UInt8
  | 0, _ => []
  | w + 1, n => toBe w (n / 256) ++ [UInt8.ofNat n]

/-- The number a big-endian byte string stands for. -/
def fromBe (bytes : List UInt8) : ℕ :=
  bytes.foldl (fun acc byte ↦ acc * 256 + byte.toNat) 0

@[simp] theorem length_toBe (w n : ℕ) : (toBe w n).length = w := by
  induction w generalizing n with
  | zero => rfl
  | succ w ih => simp [toBe, ih]

@[simp] theorem fromBe_nil : fromBe [] = 0 := rfl

theorem fromBe_concat (bytes : List UInt8) (byte : UInt8) :
    fromBe (bytes ++ [byte]) = fromBe bytes * 256 + byte.toNat := by
  simp [fromBe]

/-- **Reading back what was written**, for every number that fits. -/
theorem fromBe_toBe {w n : ℕ} (h : n < 256 ^ w) : fromBe (toBe w n) = n := by
  induction w generalizing n with
  | zero => simp only [pow_zero] at h; simp [toBe]; omega
  | succ w ih =>
    have hdiv : n / 256 < 256 ^ w := by
      rw [Nat.div_lt_iff_lt_mul (by norm_num)]
      simpa [pow_succ] using h
    rw [toBe, fromBe_concat, ih hdiv, UInt8.toNat_ofNat']
    omega

/-- **Writing back what was read**: a field of width `w` is the encoding of its number. -/
theorem toBe_fromBe {w : ℕ} {bytes : List UInt8} (h : bytes.length = w) :
    toBe w (fromBe bytes) = bytes := by
  induction bytes using List.reverseRecOn generalizing w with
  | nil => subst h; rfl
  | append_singleton bytes byte ih =>
    obtain ⟨w, rfl⟩ : ∃ v, w = v + 1 := ⟨bytes.length, by simpa using h.symm⟩
    have hlen : bytes.length = w := by simpa using h
    have hbyte := byte.toNat_lt
    have hdiv : (fromBe bytes * 256 + byte.toNat) / 256 = fromBe bytes := by omega
    have hlast : UInt8.ofNat (fromBe bytes * 256 + byte.toNat) = byte := by
      apply UInt8.toNat_inj.mp
      rw [UInt8.toNat_ofNat']
      omega
    rw [fromBe_concat, toBe, hdiv, ih hlen, hlast]

end BigEndian
