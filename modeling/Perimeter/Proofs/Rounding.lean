import Mathlib.Algebra.Group.Nat.Defs
import Mathlib.Tactic.SplitIfs
import Perimeter.Binary64
import Perimeter.Width

/-!
# Rounding

Whole numbers that 64 bits hold, and such numbers with some zeros after them, are rounded to
numbers within the range of the format. The bounds are far from tight: the mantissa of a rounded
number is bounded by the ratio that it is rounded from, not by its 53 bits.
-/

namespace Perimeter.Binary64

theorem scale_fst (base : Nat) (r : Ratio) (power : Int) :
    (scale base r power).1 = r.1 * base ^ power.toNat := by
  unfold scale
  split_ifs with whole
  · rfl
  · have none : power.toNat = 0 := by omega
    rw [none, Nat.pow_zero, Nat.mul_one]

theorem nearest_le (r : Ratio) : nearest r ≤ r.1 + 1 := by
  have down := Nat.div_le_self r.1 r.2
  unfold nearest
  dsimp only
  split_ifs <;> omega

theorem log2_le (r : Ratio) : log2 r ≤ Nat.log2 r.1 := by
  unfold log2
  dsimp only
  split_ifs <;> omega

theorem log2_whole {d : Nat} (nonzero : d ≠ 0) : log2 (d, 1) = Nat.log2 d := by
  have unit : Nat.log2 1 = 0 := by decide
  have reached : atMost (scale 2 (1, 1) (Nat.log2 d)) (d, 1) = true := by
    simpa [atMost, scale] using Nat.log2_self_le nonzero
  unfold log2
  dsimp only
  rw [unit, Int.natCast_zero, Int.sub_zero, if_pos reached]

/-- Only what exceeds the largest power of two in use is out of range. -/
theorem ofRatio_finite (negative : Bool) {r : Ratio} (small : r.1 < 2 ^ 256) :
    ∃ m q, ofRatio negative r = finite negative m q := by
  by_cases zero : r.1 = 0
  · exact ⟨0, leastPower, by rw [ofRatio, if_pos zero]⟩
  · have bits := (Nat.log2_lt zero).mpr small
    have top := log2_le r
    have within : ∀ q : Int, q ≤ max (log2 r - 52) leastPower + 1 → ¬ 971 < q := by
      unfold leastPower
      omega
    unfold ofRatio
    dsimp only
    rw [if_neg zero]
    split_ifs with carried beyond beyond
    · exact absurd beyond (within _ (Int.le_refl _))
    · exact ⟨_, _, rfl⟩
    · exact absurd beyond (within _ (by dsimp only; omega))
    · exact ⟨_, _, rfl⟩

/-- A whole number of 64 bits is rounded to one of 53 bits times a small power of two. -/
theorem ofRatio_whole (negative : Bool) {d : Nat} (word : d ≤ maxWord64) :
    ∃ m q, ofRatio negative (d, 1) = finite negative m q ∧ m ≤ 2 ^ 64 ∧ q ≤ 12 := by
  by_cases zero : d = 0
  · exact ⟨0, leastPower, by rw [ofRatio, if_pos zero], by decide, by decide⟩
  · have bits : Nat.log2 d < 64 := by
      apply (Nat.log2_lt zero).mpr
      unfold maxWord64 at word
      omega
    have power : max (log2 (d, 1) - 52) leastPower = (Nat.log2 d : Int) - 52 := by
      rw [log2_whole zero]
      unfold leastPower
      omega
    have digits : d * 2 ^ (-((Nat.log2 d : Int) - 52)).toNat < 2 ^ 64 := by
      by_cases short : Nat.log2 d ≤ 52
      · have shift : (-((Nat.log2 d : Int) - 52)).toNat = 52 - Nat.log2 d := by omega
        rw [shift]
        calc d * 2 ^ (52 - Nat.log2 d)
            ≤ 2 ^ (Nat.log2 d + 1) * 2 ^ (52 - Nat.log2 d) :=
              Nat.mul_le_mul_right _ (Nat.le_of_lt Nat.lt_log2_self)
          _ = 2 ^ 53 := by
              rw [← Nat.pow_add]
              congr 1
              omega
          _ < 2 ^ 64 := by decide
      · have shift : (-((Nat.log2 d : Int) - 52)).toNat = 0 := by omega
        rw [shift, Nat.pow_zero, Nat.mul_one]
        unfold maxWord64 at word
        omega
    have rounded := nearest_le (scale 2 (d, 1) (-((Nat.log2 d : Int) - 52)))
    rw [scale_fst] at rounded
    unfold ofRatio
    dsimp only
    rw [if_neg zero, power]
    split_ifs with carried beyond beyond
    · dsimp only at beyond
      omega
    · exact ⟨2 ^ 52, _, rfl, by decide, by dsimp only; omega⟩
    · dsimp only at beyond
      omega
    · exact ⟨_, _, rfl, by dsimp only at *; omega, by dsimp only; omega⟩

theorem digitCount_le {d : Nat} (word : d ≤ maxWord64) : digitCount d ≤ 20 := by
  have text : (toString d).toList = Nat.toDigits 10 d := Nat.toList_repr
  rw [digitCount, ← String.length_toList, text]
  apply (Nat.length_toDigits_le_iff (by decide) (by decide)).mpr
  unfold maxWord64 at word
  omega

theorem ofDecimal_whole (negative : Bool) {d : Nat} (word : d ≤ maxWord64) :
    ∃ m q, ofDecimal negative d 0 = finite negative m q ∧ m ≤ 2 ^ 64 ∧ q ≤ 12 := by
  have size := digitCount_le word
  have same : scale 10 (d, 1) 0 = (d, 1) := by simp [scale]
  unfold ofDecimal
  dsimp only
  split_ifs with none beyond
  · exact ⟨_, _, rfl, by decide, by decide⟩
  · omega
  · rw [same]
    exact ofRatio_whole negative word

theorem tenPower_lt : ∀ n < 39, (tenPower n).1 < 2 ^ 128 := by
  decide +kernel

theorem shifted_ofNat (negative : Bool) (m : Nat) (q : Int) (p : Nat) :
    (finite negative m q).shifted p =
      ofRatio negative (scale 2 (m * (tenPower p).1, (tenPower p).2) q) := by
  have up : (0 : Int) ≤ p := Int.natCast_nonneg p
  simp only [shifted, Int.natAbs_natCast, if_pos up]
  rfl

/-- The digits that 64 bits hold, with no more zeros after them than an id could count, are within
the range. -/
theorem ofSteps_finite (negative : Bool) {d p : Nat} (word : d ≤ maxWord64) (power : p < 39) :
    ∃ m q, ofSteps negative d p = finite negative m q := by
  obtain ⟨m, q, first, small, low⟩ := ofDecimal_whole negative word
  unfold ofSteps
  dsimp only
  rw [first]
  by_cases none : d = 0
  · rw [if_pos none]
    exact ⟨m, q, rfl⟩
  · rw [if_neg none, if_neg (by unfold mostTens; omega), if_pos (by unfold mostTens; omega),
      shifted_ofNat]
    apply ofRatio_finite
    have width : q.toNat ≤ 12 := by omega
    have wide : m * (tenPower p).1 * 2 ^ q.toNat ≤ 2 ^ 64 * 2 ^ 128 * 2 ^ 12 :=
      Nat.mul_le_mul (Nat.mul_le_mul small (Nat.le_of_lt (tenPower_lt p power)))
        (Nat.pow_le_pow_right (by decide) width)
    rw [scale_fst]
    exact Nat.lt_of_le_of_lt wide (by decide)

end Perimeter.Binary64
