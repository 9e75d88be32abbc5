import ChatAudit.Report.Amount
import Mathlib.Algebra.Ring.Nat
import Mathlib.Tactic.SplitIfs

/-! Which whole numbers are too large for a double. -/
namespace ChatAudit.Binary64

section Rounding
variable {num den n u : Nat}

/-- An even number is rounded to from the midpoint below it on. -/
theorem le_roundEven_iff (hden : 0 < den) (hn : n % 2 = 0) :
    n ≤ roundEven num den ↔ 2 * (n * den) ≤ 2 * num + den := by
  have hdiv := Nat.div_add_mod num den
  have hmod := Nat.mod_lt num hden
  unfold roundEven
  generalize num / den = q at *
  generalize num % den = r at *
  dsimp only
  rw [Nat.mul_comm] at hdiv
  -- the products are compared beforehand, since `omega` takes each of them as a number by itself
  have hbelow (h : n ≤ q) : n * den ≤ q * den := Nat.mul_le_mul_right den h
  have hnext (h : n = q + 1) : n * den = q * den + den := by rw [h, Nat.add_mul, Nat.one_mul]
  have habove (h : q + 2 ≤ n) : q * den + 2 * den ≤ n * den := by
    rw [← Nat.add_mul]
    exact Nat.mul_le_mul_right den h
  split_ifs <;> omega

theorem roundEven_le (num den : Nat) : roundEven num den ≤ num / den + 1 := by
  unfold roundEven
  dsimp only
  split_ifs <;> omega

/-- Above `2 ^ 53 * 2 ^ k` the significand runs over from the last midpoint of the binade on. -/
theorem roundEven_eq_iff {k : Nat} (hn : n < 2 ^ 54 * 2 ^ k) :
    roundEven n (2 ^ (k + 1)) = 2 ^ 53 ↔ (2 ^ 54 - 1) * 2 ^ k ≤ n := by
  have hpos := Nat.two_pow_pos k
  rw [Nat.pow_succ']
  have hdiv : n / (2 * 2 ^ k) < 2 ^ 53 := Nat.div_lt_of_lt_mul (by omega)
  have hle := roundEven_le n (2 * 2 ^ k)
  have hiff := @le_roundEven_iff n (2 * 2 ^ k) (2 ^ 53) (by omega) (by decide)
  omega

theorem floorLog2_one (hn : n ≠ 0) : floorLog2 n 1 = n.log2 := by
  have hlog : Nat.log2 1 = 0 := by decide
  have hle : 2 ^ n.log2 ≤ n := Nat.log2_self_le hn
  simp [floorLog2, hlog, hle]

/-- Only in the last binade does it matter how the significand is rounded. -/
theorem infinite_iff_log2 (negative : Bool) (hn : n ≠ 0) :
    (∃ sign, ofRatio negative n 1 = .infinite sign) ↔
      1023 < n.log2 ∨ n.log2 = 1023 ∧ roundEven n (2 ^ (n.log2 - 52)) = 2 ^ 53 := by
  have hexponent : max (floorLog2 n 1 - 52) minExponent = (n.log2 : Int) - 52 := by
    rw [floorLog2_one hn, minExponent]
    omega
  have hend (m : Nat) (e : Int) : (∃ sign,
      (if maxExponent < e then infinite negative else finite negative m e) = infinite sign) ↔
        maxExponent < e := by
    split_ifs with h
    · exact iff_of_true ⟨negative, rfl⟩ h
    · exact iff_of_false (by simp) h
  have hmax : maxExponent = 971 := rfl
  unfold ofRatio
  rw [if_neg hn, hexponent]
  dsimp only
  rw [hend, hmax]
  simp only [Nat.pow_eq]
  by_cases hlog : 52 ≤ n.log2
  · have hup : ((n.log2 : Int) - 52).toNat = n.log2 - 52 := by omega
    have hdown : (-((n.log2 : Int) - 52)).toNat = 0 := by omega
    rw [hup, hdown, Nat.pow_zero, Nat.mul_one, Nat.one_mul]
    split_ifs <;> omega
  · split_ifs <;> omega

end Rounding

/-- The midpoint between the largest double and the power of two that comes next. -/
def overflowThreshold : Nat := (2 ^ 54 - 1) * 2 ^ 970

/-- A whole number is rounded to infinity from the midpoint on. -/
theorem infinite_iff (negative : Bool) (n : Nat) :
    (∃ sign, ofRatio negative n 1 = .infinite sign) ↔ overflowThreshold ≤ n := by
  by_cases hn : n = 0
  · have hpos := Nat.two_pow_pos 970
    rw [hn, ofRatio, if_pos rfl, overflowThreshold]
    exact iff_of_false (by simp [zero]) (by omega)
  have hbelow {k : Nat} (h : n.log2 + 1 ≤ k + 970) : n < 2 ^ k * 2 ^ 970 := calc
    n < 2 ^ (n.log2 + 1) := Nat.lt_log2_self
    _ ≤ 2 ^ (k + 970) := Nat.pow_le_pow_right Nat.two_pos h
    _ = 2 ^ k * 2 ^ 970 := pow_add 2 k 970
  have habove {k : Nat} (h : k + 970 ≤ n.log2) : 2 ^ k * 2 ^ 970 ≤ n := calc
    2 ^ k * 2 ^ 970 = 2 ^ (k + 970) := (pow_add 2 k 970).symm
    _ ≤ 2 ^ n.log2 := Nat.pow_le_pow_right Nat.two_pos h
    _ ≤ n := Nat.log2_self_le hn
  rw [infinite_iff_log2 negative hn, overflowThreshold]
  rcases Nat.lt_trichotomy n.log2 1023 with hlog | hlog | hlog
  · have hfits := hbelow (k := 53) (by omega)
    omega
  · have hexponent : n.log2 - 52 = 970 + 1 := by omega
    rw [hexponent, roundEven_eq_iff (hbelow (k := 54) (by omega))]
    omega
  · have hlarge := habove (k := 54) (by omega)
    omega

theorem ofInt?_eq_none_iff (n : Int) : ofInt? n = none ↔ overflowThreshold ≤ n.natAbs := by
  rw [← infinite_iff (decide (n < 0)), ofInt?]
  cases ofRatio (decide (n < 0)) n.natAbs 1 with
  | nan | infinite | finite => simp

end ChatAudit.Binary64

namespace ChatAudit.Amount

/-- A number of bytes has a text below the threshold. -/
theorem bytesOfInt?_eq_none_iff (n : Int) :
    bytesOfInt? n = none ↔ Binary64.overflowThreshold ≤ n.natAbs := by
  rw [bytesOfInt?, Option.map_eq_none_iff, Binary64.ofInt?_eq_none_iff]

end ChatAudit.Amount
