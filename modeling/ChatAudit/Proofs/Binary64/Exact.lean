import ChatAudit.Proofs.Binary64.Overflow
import Mathlib.Algebra.Order.Field.Power
import Mathlib.Data.Rat.Cast.Order
import Mathlib.Tactic.FieldSimp
import Mathlib.Tactic.Linarith
import Mathlib.Tactic.Positivity
import Mathlib.Tactic.Ring

/-! Sizes that a double can hold are not changed by rounding. -/
namespace ChatAudit.Binary64

variable {num den n : Nat} {size : ℚ} {negative : Bool} {x : Binary64}

/-- Whether a double is finite and has this sign and size. -/
def Holds (negative : Bool) (size : ℚ) (x : Binary64) : Prop :=
  ∃ m e, x = .finite negative m e ∧ (m : ℚ) * 2 ^ e = size

/-- Whether a size has a significand of at most 53 bits and an exponent in range. -/
def Representable (size : ℚ) : Prop :=
  ∃ (m : Nat) (e : Int), m < 2 ^ 53 ∧ minExponent ≤ e ∧ e ≤ maxExponent ∧ (m : ℚ) * 2 ^ e = size

section Ratio

theorem two_zpow_eq (e : Int) : (2 : ℚ) ^ e = 2 ^ e.toNat / 2 ^ (-e).toNat := by
  rcases Int.le_total 0 e with he | he
  · have hneg : (-e).toNat = 0 := by omega
    have hpos : (e.toNat : Int) = e := Int.toNat_of_nonneg he
    rw [hneg, pow_zero, div_one, ← zpow_natCast, hpos]
  · have hpos : e.toNat = 0 := by omega
    have hneg : ((-e).toNat : Int) = -e := Int.toNat_of_nonneg (by omega)
    rw [hpos, pow_zero, one_div, ← zpow_natCast, hneg, zpow_neg, inv_inv]

/-- Powers of two move to the side on which they are whole numbers. -/
theorem div_two_zpow (num den : Nat) (e : Int) : (num : ℚ) / den / 2 ^ e =
    (num * 2 ^ (-e).toNat : Nat) / (den * 2 ^ e.toNat : Nat) := by
  rw [two_zpow_eq]
  push_cast
  rw [div_div_eq_mul_div, div_mul_eq_mul_div, div_div]

theorem den_pos (m : Nat) (e : Int) : 0 < (ratio m e).2 := Nat.two_pow_pos _

theorem ratio_eq (m : Nat) (e : Int) : ((ratio m e).1 : ℚ) / (ratio m e).2 = m * 2 ^ e := by
  simp only [ratio, Nat.pow_eq]
  push_cast
  rw [two_zpow_eq, mul_div_assoc]

end Ratio

section Log

theorem two_zpow_le_iff (hden : 0 < den) (k : Int) :
    (2 : ℚ) ^ k ≤ num / den ↔ den * 2 ^ k.toNat ≤ num * 2 ^ (-k).toNat := by
  have hden' : (0 : ℚ) < (den * 2 ^ k.toNat : Nat) := by positivity
  have hpow : (0 : ℚ) < 2 ^ k := by positivity
  rw [← one_le_div hpow, div_two_zpow, one_le_div hden', Nat.cast_le]

/-- A quotient lies in the binade of its logarithm. -/
theorem floorLog2_spec (hnum : num ≠ 0) (hden : 0 < den) :
    (2 : ℚ) ^ floorLog2 num den ≤ num / den ∧ (num : ℚ) / den < 2 ^ (floorLog2 num den + 1) := by
  have htwo : (2 : ℚ) ≠ 0 := by norm_num
  have hnumLow : (2 : ℚ) ^ (num.log2 : Int) ≤ num := by
    rw [zpow_natCast]
    exact_mod_cast Nat.log2_self_le hnum
  have hnumHigh : (num : ℚ) < 2 ^ ((num.log2 : Int) + 1) := by
    have hlt : num < 2 ^ (num.log2 + 1) := Nat.lt_log2_self
    exact_mod_cast hlt
  have hdenLow : (2 : ℚ) ^ (den.log2 : Int) ≤ den := by
    rw [zpow_natCast]
    exact_mod_cast Nat.log2_self_le hden.ne'
  have hdenHigh : (den : ℚ) < 2 ^ ((den.log2 : Int) + 1) := by
    have hlt : den < 2 ^ (den.log2 + 1) := Nat.lt_log2_self
    exact_mod_cast hlt
  have hhigh : (num : ℚ) / den < 2 ^ ((num.log2 : Int) - den.log2 + 1) := by
    have hexp : (num.log2 : Int) - den.log2 + 1 = num.log2 + 1 - den.log2 := by omega
    rw [hexp, zpow_sub₀ htwo]
    exact div_lt_div₀ hnumHigh hdenLow (by positivity) (by positivity)
  have hlow : (2 : ℚ) ^ ((num.log2 : Int) - den.log2 - 1) ≤ num / den := by
    have hexp : (num.log2 : Int) - den.log2 - 1 = num.log2 - (den.log2 + 1) := by omega
    rw [hexp, zpow_sub₀ htwo]
    exact div_le_div₀ (by positivity) hnumLow (by positivity) hdenHigh.le
  have hiff := @two_zpow_le_iff num den hden (num.log2 - den.log2)
  unfold floorLog2
  dsimp only [Nat.pow_eq]
  split_ifs with hfits
  · exact ⟨hiff.mpr hfits, hhigh⟩
  · rw [sub_add_cancel]
    exact ⟨hlow, lt_of_not_ge fun h => hfits (hiff.mp h)⟩

end Log

section Rounding

theorem roundEven_mul (n : Nat) (hden : 0 < den) : roundEven (n * den) den = n := by
  unfold roundEven
  rw [Nat.mul_div_cancel n hden, Nat.mul_mod_left]
  exact if_pos (by omega)

theorem two_mul_roundEven (num : Nat) (hden : 0 < den) :
    2 * (roundEven num den * den) ≤ 2 * num + den ∧
      2 * num ≤ 2 * (roundEven num den * den) + den := by
  have hdiv := Nat.div_add_mod num den
  have hmod := Nat.mod_lt num hden
  unfold roundEven
  generalize num / den = q at *
  generalize num % den = r at *
  dsimp only
  rw [Nat.mul_comm] at hdiv
  have hnext : (q + 1) * den = q * den + den := by rw [Nat.add_mul, Nat.one_mul]
  rcases Nat.mod_two_eq_zero_or_one q with hq | hq
  · simp only [hq, Nat.add_zero]
    split_ifs <;> omega
  · rw [hq]
    split_ifs <;> omega

/-- Rounding is off by at most a half. -/
theorem abs_roundEven_sub_le (num : Nat) (hden : 0 < den) :
    |(roundEven num den : ℚ) - num / den| ≤ 1 / 2 := by
  have hdenQ : (0 : ℚ) < den := by exact_mod_cast hden
  obtain ⟨hbelow, habove⟩ := two_mul_roundEven num hden
  have hbelowQ : 2 * ((roundEven num den : ℚ) * den) ≤ 2 * num + den := by exact_mod_cast hbelow
  have haboveQ : 2 * (num : ℚ) ≤ 2 * (roundEven num den * den) + den := by exact_mod_cast habove
  have hdiff : (roundEven num den : ℚ) - num / den = (roundEven num den * den - num) / den := by
    field_simp
  rw [hdiff, abs_div, abs_of_pos hdenQ, div_le_iff₀ hdenQ, abs_le]
  constructor <;> linarith

/-- An even number is rounded to from the midpoint below it on. -/
theorem le_roundEven_iff_div (num : Nat) (hden : 0 < den) (hn : n % 2 = 0) :
    n ≤ roundEven num den ↔ (n : ℚ) ≤ num / den + 1 / 2 := by
  have hdenQ : (0 : ℚ) < den := by exact_mod_cast hden
  have hsum : (num : ℚ) / den + 1 / 2 = (2 * num + den) / (2 * den) := by field_simp
  have hprod : (n : ℚ) * (2 * den) = 2 * (n * den) := by ring
  rw [le_roundEven_iff hden hn, hsum, le_div_iff₀ (by positivity), hprod]
  exact_mod_cast Iff.rfl

/-- A significand of 53 bits reaches no further than that above its exponent. -/
theorem floorLog2_lt {m : Nat} {e : Int} (hnum : num ≠ 0) (hden : 0 < den) (hm : m < 2 ^ 53)
    (hvalue : (m : ℚ) * 2 ^ e = num / den) : floorLog2 num den < 53 + e := by
  have hone : (1 : ℚ) < 2 := by norm_num
  have hmQ : (m : ℚ) < 2 ^ (53 : Int) := by exact_mod_cast hm
  rw [← zpow_lt_zpow_iff_right₀ hone, zpow_add₀ (by norm_num)]
  calc
    (2 : ℚ) ^ floorLog2 num den ≤ m * 2 ^ e := (floorLog2_spec hnum hden).1.trans_eq hvalue.symm
    _ < 2 ^ (53 : Int) * 2 ^ e := mul_lt_mul_of_pos_right hmQ (by positivity)

/-- A size that a double can hold is a whole number of the units that it is rounded to. -/
theorem Representable.exists_significand (hnum : num ≠ 0) (hden : 0 < den)
    (h : Representable ((num : ℚ) / den)) :
    let e := max (floorLog2 num den - 52) minExponent
    e ≤ maxExponent ∧ ∃ n : Nat, n < 2 ^ 53 ∧ (num : ℚ) / den = n * 2 ^ e := by
  obtain ⟨m, e', hm, hmin, hmax, hvalue⟩ := h
  have hlog := floorLog2_lt hnum hden hm hvalue
  intro e
  have hee' : e ≤ e' := by omega
  have hunits : (num : ℚ) / den = (m * 2 ^ (e' - e).toNat : Nat) * 2 ^ e := by
    push_cast
    rw [← hvalue, ← zpow_natCast, Int.toNat_of_nonneg (by omega), mul_assoc,
      ← zpow_add₀ (by norm_num), sub_add_cancel]
  refine ⟨hee'.trans hmax, _, ?_, hunits⟩
  have hlt : ((m * 2 ^ (e' - e).toNat : Nat) : ℚ) * 2 ^ e < 2 ^ (53 : Int) * 2 ^ e := by
    rw [← hunits, ← zpow_add₀ (by norm_num)]
    exact (floorLog2_spec hnum hden).2.trans_le (zpow_le_zpow_right₀ (by norm_num) (by omega))
  have hltQ := lt_of_mul_lt_mul_right hlt (by positivity)
  exact_mod_cast hltQ

/-- A size that a double can hold is what the double nearest to it holds. -/
theorem holds_ofRatio (negative : Bool) (hden : 0 < den) (h : Representable ((num : ℚ) / den)) :
    Holds negative (num / den) (ofRatio negative num den) := by
  by_cases hnum : num = 0
  · subst hnum
    exact ⟨0, minExponent, rfl, by simp⟩
  obtain ⟨hmax, n, hn, hvalue⟩ := h.exists_significand hnum hden
  unfold ofRatio
  rw [if_neg hnum]
  dsimp only [Nat.pow_eq]
  generalize max (floorLog2 num den - 52) minExponent = e at *
  have hden' : 0 < den * 2 ^ e.toNat := by positivity
  have hnum' : num * 2 ^ (-e).toNat = n * (den * 2 ^ e.toNat) := by
    have hquot : ((num * 2 ^ (-e).toNat : Nat) : ℚ) / (den * 2 ^ e.toNat : Nat) = n := by
      rw [← div_two_zpow, hvalue, mul_div_cancel_right₀]
      positivity
    rw [div_eq_iff (by positivity)] at hquot
    exact_mod_cast hquot
  rw [hnum', roundEven_mul n hden', if_neg hn.ne, if_neg (by omega)]
  exact ⟨n, e, rfl, hvalue.symm⟩

end Rounding

section Operations

theorem Holds.exists_ratio (h : Holds negative size x) : ∃ m e, x = .finite negative m e ∧
    0 < (ratio m e).2 ∧ ((ratio m e).1 : ℚ) / (ratio m e).2 = size := by
  obtain ⟨m, e, rfl, rfl⟩ := h
  exact ⟨m, e, rfl, den_pos m e, ratio_eq m e⟩

/-- Moving the exponent is exact where the result can be held. -/
theorem Holds.scale {k : Int} (h : Holds negative size x) (hsize : Representable (size * 2 ^ k)) :
    Holds negative (size * 2 ^ k) (x.scale 1 k) := by
  obtain ⟨m, e, rfl, rfl⟩ := h
  have hratio : ((ratio m (e + k)).1 : ℚ) / (ratio m (e + k)).2 = m * 2 ^ e * 2 ^ k := by
    rw [ratio_eq, zpow_add₀ (by norm_num), mul_assoc]
  rw [← hratio] at hsize ⊢
  simp only [Binary64.scale, Nat.mul_one]
  exact holds_ofRatio negative (den_pos m (e + k)) hsize

theorem Holds.absBelow_iff (h : Holds negative size x) (n : Nat) : x.absBelow n ↔ size < n := by
  obtain ⟨m, e, rfl, hden, rfl⟩ := h.exists_ratio
  have hdenQ : (0 : ℚ) < (ratio m e).2 := by exact_mod_cast hden
  rw [absBelow, decide_eq_true_iff, div_lt_iff₀ hdenQ]
  exact_mod_cast Iff.rfl

theorem Holds.truncate?_eq (h : Holds negative n x) :
    x.truncate? = some (if negative then -(n : Int) else n) := by
  obtain ⟨m, e, rfl, hden, hratio⟩ := h.exists_ratio
  have hdenQ : ((ratio m e).2 : ℚ) ≠ 0 := by exact_mod_cast hden.ne'
  rw [div_eq_iff hdenQ] at hratio
  have hnum : (ratio m e).1 = n * (ratio m e).2 := by exact_mod_cast hratio
  simp only [truncate?, hnum, Nat.mul_div_cancel n hden]

/-- With `places` digits after the point the number is off by at most half a unit of the last one. -/
theorem Holds.exists_formatFixed (h : Holds negative size x) {places : Nat} (hplaces : places ≠ 0) :
    ∃ t, x.formatFixed places = signed negative (toString (t / 10 ^ places) ++ "." ++
        Text.padded places (t % 10 ^ places)) ∧
      |(t : ℚ) - size * 10 ^ places| ≤ 1 / 2 ∧
      ∀ n, n % 2 = 0 → (n ≤ t ↔ (n : ℚ) ≤ size * 10 ^ places + 1 / 2) := by
  obtain ⟨m, e, rfl, hden, rfl⟩ := h.exists_ratio
  have hunits : ((ratio m e).1 : ℚ) / (ratio m e).2 * 10 ^ places =
      ((ratio m e).1 * 10 ^ places : Nat) / (ratio m e).2 := by
    push_cast
    rw [div_mul_eq_mul_div]
  rw [hunits]
  refine ⟨roundEven ((ratio m e).1 * 10 ^ places) (ratio m e).2, ?_, abs_roundEven_sub_le _ hden,
    fun n hn => le_roundEven_iff_div _ hden hn⟩
  simp only [formatFixed, if_neg hplaces, Nat.pow_eq]

end Operations

section Integers

theorem representable_div {k : Nat} (hn : n ≤ 2 ^ 53) (hk : k ≤ 100) :
    Representable ((n : ℚ) / 1024 ^ k) := by
  have hmin : minExponent = -1074 := rfl
  have hmax : maxExponent = 971 := rfl
  have hpow : (1024 : ℚ) ^ k = 2 ^ (10 * k : Int) := by
    rw [zpow_mul, zpow_natCast]
    norm_num
  rw [hpow, div_eq_mul_inv, ← zpow_neg]
  rcases hn.lt_or_eq with hlt | rfl
  · exact ⟨n, -(10 * k : Int), hlt, by omega, by omega, rfl⟩
  · refine ⟨2 ^ 52, -(10 * k : Int) + 1, by norm_num, by omega, by omega, ?_⟩
    rw [zpow_add₀ (by norm_num), zpow_one]
    push_cast
    ring

/-- Whole numbers of up to 53 bits are held exactly. -/
theorem exists_ofInt? {n : Int} (hn : n.natAbs ≤ 2 ^ 53) :
    ∃ x, ofInt? n = some x ∧ Holds (decide (n < 0)) n.natAbs x := by
  have hrepresentable : Representable ((n.natAbs : ℚ) / (1 : Nat)) := by
    simpa using representable_div hn (k := 0) (by decide)
  have hholds := holds_ofRatio (decide (n < 0)) Nat.one_pos hrepresentable
  rw [Nat.cast_one, div_one] at hholds
  refine ⟨_, ?_, hholds⟩
  obtain ⟨m, e, hx, -⟩ := hholds
  rw [ofInt?, hx]

end Integers
end ChatAudit.Binary64
