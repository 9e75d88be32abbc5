import ChatAudit.Proofs.Binary64.Fixed
import ChatAudit.Proofs.Text.Parts

/-! Sizes as they are shown: how far the number is from the size, and where rounding leaves the unit
behind. -/
namespace ChatAudit.Amount
open Binary64 Text

variable {x : Binary64} {negative : Bool} {size : ℚ} {n : Nat}

/-- All units, each 1024 times the one before. -/
def units : List String := "B" :: byteUnits

/-- The number and the unit that a text tells. -/
def measure? (text : String) : Option (ℚ × String) :=
  match cutAt ' ' text.toList with
  | (number, some unit) => (decimal? number).map fun q => (q, String.ofList unit)
  | (_, none) => none

theorem measure?_append {number : String} (h : ' ' ∉ number.toList) (unit : String) :
    measure? (number ++ " " ++ unit) =
      (decimal? number.toList).map fun q => (q, unit) := by
  have htoList : (number ++ " " ++ unit).toList = number.toList ++ ' ' :: unit.toList := by simp
  rw [measure?, htoList, cutAt_append h]
  simp only [String.ofList_toList]

theorem Holds.nextUnit (h : Holds negative size x) (hsize : Representable (size / 1024)) :
    Holds negative (size / 1024) (x.scale 1 (-10)) := by
  have hpow : size * 2 ^ (-10 : Int) = size / 1024 := by
    rw [zpow_neg, div_eq_mul_inv]
    norm_num
  rw [← hpow] at hsize ⊢
  exact h.scale hsize

/-- The unit is the first one in which the size is below 1024, or the last one. -/
theorem exists_inUnits {us : List String} (hus : us ≠ []) (h : Holds negative size x)
    (hsize : ∀ k < us.length, Representable (size / 1024 ^ k)) (hone : 1 ≤ size) :
    ∃ k unit y, us[k]? = some unit ∧ inUnits x us = y.formatFixed 1 ++ " " ++ unit ∧
      Holds negative (size / 1024 ^ k) y ∧ 1 ≤ size / 1024 ^ k ∧
      (k + 1 < us.length → size / 1024 ^ k < 1024) := by
  induction us generalizing x size with
  | nil => exact absurd rfl hus
  | cons u us ih =>
    have hhere : size / 1024 ^ 0 = size := by rw [pow_zero, div_one]
    cases us with
    | nil => exact ⟨0, u, x, rfl, rfl, by rwa [hhere], by rwa [hhere], by simp⟩
    | cons u' us =>
      have hbelow : x.absBelow 1024 ↔ size < 1024 := by exact_mod_cast h.absBelow_iff 1024
      by_cases hlt : size < 1024
      · refine ⟨0, u, x, rfl, ?_, by rwa [hhere], by rwa [hhere], fun _ => by rwa [hhere]⟩
        simp only [inUnits, hbelow.mpr hlt, if_true]
      · have hnext (k : Nat) : size / 1024 / 1024 ^ k = size / 1024 ^ (k + 1) := by
          rw [pow_succ', div_div]
        have hrepresentable : ∀ k < (u' :: us).length, Representable (size / 1024 / 1024 ^ k) := by
          intro k hk
          rw [hnext]
          exact hsize (k + 1) (Nat.succ_lt_succ hk)
        have hx := Holds.nextUnit h (by simpa using hrepresentable 0 (by simp))
        have hone' : 1 ≤ size / 1024 := by
          rw [le_div_iff₀ (by norm_num), one_mul]
          exact not_lt.mp hlt
        obtain ⟨k, unit, y, hunit, htext, hy, hlow, hhigh⟩ :=
          ih (List.cons_ne_nil u' us) hx hrepresentable hone'
        rw [hnext] at hy hlow hhigh
        refine ⟨k + 1, unit, y, hunit, ?_, hy, hlow, fun hk => hhigh (Nat.lt_of_succ_lt_succ hk)⟩
        simp only [inUnits, mt hbelow.mp hlt]
        exact htext

/-- What a text of one decimal place tells of the size that was rounded. -/
theorem exists_tenths (h : Holds negative size x) (unit : String) : ∃ q,
    measure? (x.formatFixed 1 ++ " " ++ unit) = some (q, unit) ∧
      |q - withSign negative size| ≤ 1 / 20 ∧
      (1 ≤ size → 1 ≤ |q|) ∧ (|q| < 1024 ↔ size < 20479 / 20) := by
  obtain ⟨t, hdecimal, herror, heven⟩ := h.exists_decimal (by decide : 0 < 1)
  rw [pow_one] at hdecimal herror heven
  have hblank := not_mem_formatFixed h (by decide : 0 < 1) (c := ' ') rfl (by decide)
  have habs : |withSign negative ((t : ℚ) / 10)| = t / 10 := by
    rw [abs_withSign, abs_of_nonneg (by positivity)]
  refine ⟨withSign negative (t / 10), ?_, ?_, ?_, ?_⟩
  · rw [measure?_append hblank, hdecimal, Option.map_some]
  · rw [withSign_sub, abs_withSign, abs_le]
    obtain ⟨hlow, hhigh⟩ := abs_le.mp herror
    constructor <;> linarith
  · intro hone
    have hten : 10 ≤ t := (heven 10 rfl).mpr (by push_cast; linarith)
    have htenQ : (10 : ℚ) ≤ t := by exact_mod_cast hten
    rw [habs]
    linarith
  · have hover : (10240 : ℚ) ≤ t ↔ (10240 : ℚ) ≤ size * 10 + 1 / 2 := by
      exact_mod_cast heven 10240 rfl
    rw [habs, ← not_le, ← not_le, not_iff_not]
    constructor
    · intro hle
      have hsize := hover.mp (by linarith)
      linarith
    · intro hle
      have hten := hover.mpr (by linarith)
      linarith

section Bytes

/-- Below 1024 the number of bytes is told itself. -/
theorem measure?_bytes_of_lt {n : Int} (h : Holds (decide (n < 0)) n.natAbs x)
    (hlt : n.natAbs < 1024) : measure? (bytes x) = some ((n : ℚ), "B") := by
  have hbelow : x.absBelow 1024 := (h.absBelow_iff 1024).mpr (by exact_mod_cast hlt)
  have hwhole : (if decide (n < 0) then -(n.natAbs : Int) else n.natAbs) = n := by
    simp only [decide_eq_true_eq]
    split_ifs <;> omega
  have htruncate : x.truncate? = some n := by rw [h.truncate?_eq, hwhole]
  have hbytes : bytes x = toString n ++ " " ++ "B" := by
    rw [bytes, hbelow, htruncate, String.append_assoc]
    rfl
  have hblank : ' ' ∉ (toString n).toList := fun hm =>
    absurd (Json.isWordChar_of_mem_toString hm) (by decide)
  rw [hbytes, measure?_append hblank, decimal?_toString, Option.map_some]

theorem bytes_of_le (h : Holds negative n x) (hle : 1024 ≤ n) :
    bytes x = inUnits (x.scale 1 (-10)) byteUnits := by
  have hbelow : x.absBelow 1024 = false := by
    rw [← Bool.not_eq_true, h.absBelow_iff 1024]
    exact_mod_cast Nat.not_lt.mpr hle
  rw [bytes, hbelow]

/-- From 1024 bytes on the size is told in the first unit that keeps it below 1024, or in the last. -/
theorem exists_measure?_bytes (h : Holds negative n x) (hn : n ≤ 2 ^ 53) (hle : 1024 ≤ n) :
    ∃ q k unit, measure? (bytes x) = some (q, unit) ∧ units[k]? = some unit ∧ k ≠ 0 ∧
      |q - withSign negative n / 1024 ^ k| ≤ 1 / 20 ∧ 1 ≤ (n : ℚ) / 1024 ^ k ∧ 1 ≤ |q| ∧
      (k < 4 → (n : ℚ) / 1024 ^ k < 1024 ∧ (|q| < 1024 ↔ (n : ℚ) / 1024 ^ k < 20479 / 20)) := by
  have hnext (k : Nat) : (n : ℚ) / 1024 / 1024 ^ k = n / 1024 ^ (k + 1) := by
    rw [pow_succ', div_div]
  have hrepresentable : ∀ k < byteUnits.length, Representable ((n : ℚ) / 1024 / 1024 ^ k) := by
    intro k hk
    have hlength : byteUnits.length = 4 := rfl
    rw [hnext]
    exact representable_div hn (by omega)
  have hx := Holds.nextUnit h (by simpa using hrepresentable 0 (by decide))
  have hone : (1 : ℚ) ≤ n / 1024 := by
    rw [le_div_iff₀ (by norm_num), one_mul]
    exact_mod_cast hle
  have hunits : byteUnits ≠ [] := List.cons_ne_nil _ _
  obtain ⟨k, unit, y, hunit, htext, hy, hlow, hhigh⟩ :=
    exists_inUnits hunits hx hrepresentable hone
  rw [hnext] at hy hlow hhigh
  obtain ⟨q, hq, herror, habove, hover⟩ := exists_tenths hy unit
  rw [withSign_div] at herror
  refine ⟨q, k + 1, unit, ?_, hunit, Nat.succ_ne_zero k, herror, hlow, habove hlow, fun hk => ?_⟩
  · rw [bytes_of_le h hle, htext, hq]
  · exact ⟨hhigh hk, hover⟩

/-- Sizes of up to 53 bits are told in the unit in which they are from 1 to below 1024, the last one
taking all that is above, by a number that is off by at most a twentieth. Only rounding makes it
1024 of a unit, from 1023.95 on. -/
theorem bytes_measured (n : Int) (hn : n.natAbs ≤ 2 ^ 53) : ∃ text q k unit,
    bytesOfInt? n = some text ∧ measure? text = some (q, unit) ∧ units[k]? = some unit ∧
      |q - n / 1024 ^ k| ≤ 1 / 20 ∧ (k = 0 → q = n) ∧
      (k ≠ 0 → 1024 ^ k ≤ n.natAbs ∧ 1 ≤ |q|) ∧
      (k < 4 → n.natAbs < 1024 ^ (k + 1) ∧
        (|q| < 1024 ↔ 20 * n.natAbs < 20479 * 1024 ^ k)) := by
  obtain ⟨x, hx, hholds⟩ := exists_ofInt? hn
  have htext : bytesOfInt? n = some (bytes x) := by rw [bytesOfInt?, hx, Option.map_some]
  by_cases hlt : n.natAbs < 1024
  · have habs : |(n : ℚ)| < 1024 := by
      rw [← Int.cast_abs, ← Nat.cast_natAbs]
      exact_mod_cast hlt
    refine ⟨bytes x, n, 0, "B", htext, measure?_bytes_of_lt hholds hlt, rfl, by simp, fun _ => rfl,
      fun h => absurd rfl h, fun _ => ⟨by omega, iff_of_true habs (by omega)⟩⟩
  · obtain ⟨q, k, unit, hq, hunit, hk, herror, hlow, habove, hhigh⟩ :=
      exists_measure?_bytes hholds hn (Nat.not_lt.mp hlt)
    rw [withSign_natAbs] at herror
    have hpow : (0 : ℚ) < 1024 ^ k := by positivity
    refine ⟨bytes x, q, k, unit, htext, hq, hunit, herror, fun h => absurd h hk,
      fun _ => ⟨?_, habove⟩, fun hk4 => ⟨?_, ?_⟩⟩
    · rw [one_le_div hpow] at hlow
      exact_mod_cast hlow
    · have hbelow := (hhigh hk4).1
      rw [div_lt_iff₀ hpow, ← pow_succ'] at hbelow
      exact_mod_cast hbelow
    · rw [(hhigh hk4).2, div_lt_div_iff₀ hpow (by norm_num), mul_comm]
      exact_mod_cast Iff.rfl

/-- The last size before rounding would make it a mebibyte, below zero. -/
theorem kibibytes_measured : (-1048524 : Int).natAbs ≤ 2 ^ 53 ∧
    ∃ text q, bytesOfInt? (-1048524) = some text ∧ measure? text = some (q, "KiB") ∧
      |q + 1048524 / 1024| ≤ 1 / 20 ∧ 1 ≤ |q| ∧ |q| < 1024 := by
  have hn : (-1048524 : Int).natAbs ≤ 2 ^ 53 := by decide
  refine ⟨hn, ?_⟩
  obtain ⟨text, q, k, unit, htext, hq, hunit, herror, -, hlow, hhigh⟩ := bytes_measured (-1048524) hn
  have hnatAbs : (-1048524 : Int).natAbs = 1048524 := rfl
  rw [hnatAbs] at hlow hhigh
  obtain rfl : k = 1 := by
    rcases Nat.lt_trichotomy k 1 with hk | hk | hk
    · obtain rfl := Nat.lt_one_iff.mp hk
      have hbelow := (hhigh (by decide)).1
      omega
    · exact hk
    · have hpow : 1024 ^ 2 ≤ 1024 ^ k := Nat.pow_le_pow_right (by decide) hk
      have hle := (hlow (by omega)).1
      omega
  obtain rfl := Option.some.inj hunit
  refine ⟨text, q, htext, hq, ?_, (hlow (by decide)).2, (hhigh (by decide)).2.mpr (by decide)⟩
  norm_num at herror ⊢
  exact herror

/-- One byte short of a mebibyte is told as 1024 kibibytes. -/
theorem mebibyte_not_measured : ∃ q, bytesOfInt? 1048575 = some "1024.0 KiB" ∧
    measure? "1024.0 KiB" = some (q, "KiB") ∧ ¬|q| < 1024 := by
  refine ⟨1024, by decide +kernel, by decide +kernel, by norm_num⟩

end Bytes
end ChatAudit.Amount
