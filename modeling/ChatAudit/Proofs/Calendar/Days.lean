import ChatAudit.Calendar.Date
import Mathlib.Algebra.BigOperators.Group.List.Basic
import Mathlib.Algebra.Ring.Nat
import Mathlib.Order.Monotone.Basic
import Mathlib.Tactic.SplitIfs

/-! Counting days and reading dates off the count undo each other. -/
namespace ChatAudit.Calendar

/-- Only the last year of four has a day more, and the last of a century only in the last century
of four. -/
theorem year_ofDays (n : Nat) : ∃ cycles centuries quads years days,
    (Date.ofDays n).year = 400 * cycles + 100 * centuries + 4 * quads + years + 1 ∧
      n = 146097 * cycles + 36524 * centuries + 1461 * quads + 365 * years + days ∧
      centuries ≤ 3 ∧ quads ≤ 24 ∧ years ≤ 3 ∧ days ≤ 365 ∧
      (days = 365 → years = 3 ∧ (quads = 24 → centuries = 3)) ∧
      ((Date.ofDays n).month, (Date.ofDays n).day) =
        monthDay 1 days (monthLengths (Date.ofDays n).year) := by
  let r := n % 146097
  let centuries := min (r / 36524) 3
  let s := r - centuries * 36524
  let years := min (s % 1461 / 365) 3
  refine ⟨n / 146097, centuries, s / 1461, years, s % 1461 - years * 365, rfl, ?_, ?_, ?_, ?_, ?_,
    ?_, rfl⟩ <;> dsimp only [years, s, centuries, r] <;> omega

theorem sum_monthLengths (year : Nat) :
    (monthLengths year).sum = if isLeap year then 366 else 365 := by
  unfold monthLengths
  split_ifs <;> rfl

/-- A count of days is the start of a year and a day in it. -/
theorem dayOfYear_ofDays (n : Nat) : ∃ days, days < (monthLengths (Date.ofDays n).year).sum ∧
    n = yearStart (Date.ofDays n).year + days ∧ 1 ≤ (Date.ofDays n).year ∧
      ((Date.ofDays n).month, (Date.ofDays n).day) =
        monthDay 1 days (monthLengths (Date.ofDays n).year) := by
  obtain ⟨cycles, centuries, quads, years, days, hyear, hn, hc, hq, hy, hd, hleap, hmonth⟩ :=
    year_ofDays n
  refine ⟨days, ?_, ?_, by omega, hmonth⟩
  · rw [sum_monthLengths]
    split_ifs with h
    · omega
    · by_contra hlong
      obtain ⟨rfl, hcentury⟩ := hleap (by omega)
      refine h ?_
      simp only [isLeap, hyear, Bool.and_eq_true, Bool.or_eq_true, beq_iff_eq, bne_iff_ne]
      omega
  · rw [hyear]
    simp only [yearStart]
    omega

theorem foldl_add_eq_sum (ls : List Nat) (n : Nat) : ls.foldl (· + ·) n = n + ls.sum := by
  induction ls generalizing n with
  | nil => rfl
  | cons l ls ih => rw [List.foldl_cons, ih, List.sum_cons, Nat.add_assoc]

/-- A day lies in the month that its count falls into. -/
theorem monthDay_spec (month : Nat) {n : Nat} {ls : List Nat} (h : n < ls.sum) :
    ∃ i l day, ls[i]? = some l ∧ day < l ∧ n = (ls.take i).sum + day ∧
      monthDay month n ls = (month + i, day + 1) := by
  induction ls generalizing month n with
  | nil => simp at h
  | cons l ls ih =>
    by_cases hl : n < l
    · exact ⟨0, l, n, rfl, hl, by simp, by simp [monthDay, hl]⟩
    · rw [List.sum_cons] at h
      obtain ⟨i, l', day, hi, hday, hn, heq⟩ := ih (month + 1) (show n - l < ls.sum by omega)
      refine ⟨i + 1, l', day, by simpa using hi, hday, ?_, ?_⟩
      · rw [List.take_succ_cons, List.sum_cons]
        omega
      · simp [monthDay, hl, heq, Nat.add_assoc, Nat.add_comm 1 i]

/-- Each year begins where the year before it ends. -/
theorem yearStart_succ {year : Nat} (h : 1 ≤ year) :
    yearStart (year + 1) = yearStart year + (monthLengths year).sum := by
  have hquads : year / 4 = (year - 1) / 4 + if year % 4 = 0 then 1 else 0 := by
    split_ifs <;> omega
  have hcenturies : year / 100 = (year - 1) / 100 + if year % 100 = 0 then 1 else 0 := by
    split_ifs <;> omega
  have hcycles : year / 400 = (year - 1) / 400 + if year % 400 = 0 then 1 else 0 := by
    split_ifs <;> omega
  have hbelow : (year - 1) / 100 ≤ (year - 1) / 4 := Nat.div_le_div_left (by decide) (by decide)
  rw [sum_monthLengths]
  simp only [yearStart, isLeap, Nat.add_sub_cancel, hquads, hcenturies, hcycles, Bool.and_eq_true,
    Bool.or_eq_true, beq_iff_eq, bne_iff_ne]
  generalize (year - 1) / 4 = a at *
  generalize (year - 1) / 100 = b at *
  generalize (year - 1) / 400 = c at *
  split_ifs <;> omega

theorem yearStart_mono : Monotone yearStart := by
  apply monotone_nat_of_le_succ
  intro year
  cases year with
  | zero => exact Nat.le_refl 0
  | succ year =>
    rw [yearStart_succ (Nat.le_add_left 1 year)]
    exact Nat.le_add_right _ _

/-- The year of a count is the last one that begins no later. -/
theorem le_year_ofDays_iff {year n : Nat} :
    year ≤ (Date.ofDays n).year ↔ yearStart year ≤ n := by
  obtain ⟨days, hdays, hn, hyear, -⟩ := dayOfYear_ofDays n
  constructor
  · intro h
    have hstart := yearStart_mono h
    omega
  · intro h
    by_contra hlt
    have hstart : yearStart ((Date.ofDays n).year + 1) ≤ yearStart year :=
      yearStart_mono (Nat.lt_of_not_le hlt)
    rw [yearStart_succ hyear] at hstart
    omega

/-- The date of a count is a day of the calendar unless it lies after the last year. -/
theorem isValid_ofDays {n : Nat} (h : n < yearStart (maxYear + 1)) : (Date.ofDays n).isValid := by
  obtain ⟨days, hdays, hn, hyear, hmonth⟩ := dayOfYear_ofDays n
  obtain ⟨i, l, day, hi, hday, -, heq⟩ := monthDay_spec 1 hdays
  rw [heq, Prod.mk.injEq] at hmonth
  have hmax : (Date.ofDays n).year ≤ maxYear := by
    rw [← Nat.lt_succ_iff, ← Nat.not_le]
    exact fun hlate => Nat.not_le_of_lt h (le_year_ofDays_iff.mp hlate)
  simp [Date.isValid, hmax, hmonth.1, hmonth.2, hi]
  omega

theorem toDays_ofDays (n : Nat) : (Date.ofDays n).toDays = n := by
  obtain ⟨days, hdays, hn, hyear, hmonth⟩ := dayOfYear_ofDays n
  obtain ⟨i, l, day, hi, hday, hsum, heq⟩ := monthDay_spec 1 hdays
  rw [heq, Prod.mk.injEq] at hmonth
  rw [Date.toDays, hmonth.1, hmonth.2, foldl_add_eq_sum, Nat.add_sub_cancel_left]
  omega

end ChatAudit.Calendar
