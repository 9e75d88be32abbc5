import ChatAudit.Proofs.Calendar.Zone
import Mathlib.Data.List.Forall2

/-! Stamps: the seconds that they tell, and the years in which they have the form
`YYYY-MM-DDTHH:MM:SSZ`. -/
namespace ChatAudit.Timestamp
open Calendar Text

variable {zone : Zone} {t u : Timestamp} {n : Nat} {p ds cs : List Char}

/-- Microseconds from the start of year 1 to what the clock shows, a clock without an offset being
read as UTC. -/
def instant (t : Timestamp) : Int := t.clock - t.offset.getD 0 * 60000000

/-- The same clock without its fraction of a second. -/
def whole (t : Timestamp) : Timestamp where
  clock := t.clock / 1000000 * 1000000
  offset := t.offset
  clock_lt := (Nat.div_mul_le_self t.clock 1000000).trans_lt t.clock_lt

/-- Reads a stamp, whose year may have less than four digits. -/
def ofStamp? (cs : List Char) : Option Timestamp :=
  (read (String.ofList (List.replicate (20 - cs.length) '0' ++ cs))).toOption

/-- Whether a text has the form of a pattern, with a digit for each zero of the pattern. -/
def Fits (pattern cs : List Char) : Prop :=
  List.Forall₂ (fun p c => if p = '0' then c.isDigit else c = p) pattern cs

theorem ahead_of_local
    (hlocal : t.offset = none → zone.aheadAt (t.clock / 1000000 : Nat) = .ok 0) :
    t.ahead zone = .ok (t.clock - t.instant) := by
  unfold ahead instant
  cases ho : t.offset with
  | none =>
    rw [hlocal ho]
    exact congrArg Except.ok (by simp)
  | some minutes => exact congrArg Except.ok (by simp)

theorem instant_eq (h : t.toUtc zone = .ok u)
    (hlocal : t.offset = none → zone.aheadAt (t.clock / 1000000 : Nat) = .ok 0) :
    (u.clock : Int) = t.instant := by
  have hahead := (toUtc_spec h).2
  rw [ahead_of_local hlocal] at hahead
  have hclock := Except.ok.inj hahead
  omega

theorem exists_toUtc (hlow : 0 ≤ t.instant) (hhigh : t.instant < limit)
    (hlocal : t.offset = none → zone.aheadAt (t.clock / 1000000 : Nat) = .ok 0) :
    ∃ u, t.toUtc zone = .ok u := by
  cases h : t.toUtc zone with
  | ok u => exact ⟨u, rfl⟩
  | error f =>
    have hoff := exists_toUtc_error_iff.mp ⟨f, h⟩ _ (ahead_of_local hlocal)
    omega

/-- A clock without an offset tells another second than UTC wherever the zone is off it. -/
theorem aheadAt_of_whole (h : t.toUtc zone = .ok u)
    (hwhole : (u.whole.clock : Int) = t.instant / 1000000 * 1000000) (ho : t.offset = none) :
    zone.aheadAt (t.clock / 1000000 : Nat) = .ok 0 := by
  obtain ⟨-, hahead⟩ := toUtc_spec h
  rw [ahead, ho] at hahead
  obtain ⟨seconds, hseconds, hahead⟩ := bind_eq_ok.mp hahead
  have hclock : seconds * 1000000 = (t.clock : Int) - u.clock := Except.ok.inj hahead
  have hinstant : t.instant = t.clock := by simp [instant, ho]
  have hsecond : u.whole.clock = u.clock / 1000000 * 1000000 := rfl
  obtain rfl : seconds = 0 := by omega
  exact hseconds

theorem le_year_iff (u : Timestamp) (year : Nat) :
    year ≤ u.date.year ↔ yearStart year * dayLength ≤ u.clock := by
  rw [date, le_year_ofDays_iff, Nat.le_div_iff_mul_le (by decide)]

section Whole

/-- No unit of a second or more feels the fraction. -/
theorem whole_div (t : Timestamp) (k : Nat) :
    t.whole.clock / (1000000 * k) = t.clock / (1000000 * k) := by
  rw [← Nat.div_div_eq_div_mul, ← Nat.div_div_eq_div_mul, whole, Nat.mul_div_cancel _ (by decide)]

theorem date_whole (t : Timestamp) : t.whole.date = t.date :=
  congrArg Date.ofDays (t.whole_div 86400)

theorem hour_whole (t : Timestamp) : t.whole.hour = t.hour := congrArg (· % 24) (t.whole_div 3600)

theorem minute_whole (t : Timestamp) : t.whole.minute = t.minute :=
  congrArg (· % 60) (t.whole_div 60)

theorem second_whole (t : Timestamp) : t.whole.second = t.second :=
  congrArg (· % 60) (t.whole_div 1)

theorem microsecond_whole (t : Timestamp) : t.whole.microsecond = 0 := Nat.mul_mod_left ..

end Whole

section Stamp

/-- What follows the year in a stamp. -/
def afterYear (t : Timestamp) : List Char :=
  '-' :: ((two t.date.month).toList ++ '-' :: ((two t.date.day).toList ++
    'T' :: ((two t.hour).toList ++ ':' :: ((two t.minute).toList ++
    ':' :: ((two t.second).toList ++ ['Z'])))))

theorem toList_stamp (t : Timestamp) :
    t.stamp.toList = Nat.toDigits 10 t.date.year ++ t.afterYear := by
  simp [stamp, afterYear]

/-- On the UTC clock a stamp differs from what is sent only in the zeros before the year. -/
theorem toList_wire_whole (h : t.offset = some 0) :
    t.whole.wire.toList = (padded 4 t.date.year).toList ++ t.afterYear := by
  have hoffset : t.whole.offset = some 0 := h
  simp [wire, isoWith, timeText, hoffset, date_whole, hour_whole, minute_whole, second_whole,
    microsecond_whole, afterYear]

theorem isValid_date (t : Timestamp) : t.date.isValid := isValid_ofDays t.day_lt

theorem length_two (hn : n < 100) : (two n).toList.length = 2 := length_padded (by decide) hn

theorem length_afterYear (t : Timestamp) : t.afterYear.length = 16 := by
  obtain ⟨-, hmonth, hday⟩ := lt_of_isValid t.isValid_date
  have hhour : t.hour < 24 := Nat.mod_lt _ (by decide)
  have hminute : t.minute < 60 := Nat.mod_lt _ (by decide)
  have hsecond : t.second < 60 := Nat.mod_lt _ (by decide)
  simp only [afterYear, List.length_append, List.length_cons, List.length_nil, length_two hmonth,
    length_two hday, length_two (by omega : t.hour < 100), length_two (by omega : t.minute < 100),
    length_two (by omega : t.second < 100)]

/-- A stamp is read as the second that it tells. -/
theorem ofStamp?_stamp (h : t.offset = some 0) : ofStamp? t.stamp.toList = some t.whole := by
  have hlength : 20 - t.stamp.toList.length = 4 - (Nat.toDigits 10 t.date.year).length := by
    rw [toList_stamp, List.length_append, length_afterYear]
    omega
  have hwire : List.replicate (20 - t.stamp.toList.length) '0' ++ t.stamp.toList =
      t.whole.wire.toList := by
    rw [hlength, toList_wire_whole h, toList_padded, toList_stamp, List.append_assoc]
  have hbounded : ∀ o ∈ t.whole.offset, Offset o := by
    intro o ho
    obtain rfl : 0 = o := Option.some.inj (h.symm.trans ho)
    exact offset_zero
  rw [ofStamp?, hwire, String.ofList_toList, read_wire hbounded]
  rfl

theorem not_mem_stamp {c : Char} (hdigit : c.isDigit = false) (hmark : c ∉ ['-', 'T', ':', 'Z']) :
    c ∉ t.stamp.toList := by
  have hyear : c ∉ Nat.toDigits 10 t.date.year := fun hc =>
    absurd (isDigit_of_mem_toDigits hc) (by simp [hdigit])
  have htwo (n : Nat) : c ∉ (two n).toList := fun hc =>
    absurd (isDigit_of_mem_padded hc) (by simp [hdigit])
  simp only [List.mem_cons, List.not_mem_nil, or_false, not_or] at hmark
  simp [toList_stamp, afterYear, hyear, htwo, hmark]

end Stamp

section Form

theorem fits_cons (c : Char) (hc : c ≠ '0') (h : Fits p cs) : Fits (c :: p) (c :: cs) :=
  .cons (by simp [hc]) h

theorem fits_digits_append (hds : ∀ c ∈ ds, c.isDigit) (hn : ds.length = n) (h : Fits p cs) :
    Fits (List.replicate n '0' ++ p) (ds ++ cs) := by
  induction ds generalizing n with
  | nil =>
    obtain rfl := hn
    exact h
  | cons d ds ih =>
    obtain rfl := hn
    refine .cons (hds d List.mem_cons_self) ?_
    exact ih (fun c hc => hds c (List.mem_cons_of_mem d hc)) rfl

theorem fits_two_append (hn : n < 100) (h : Fits p cs) :
    Fits ('0' :: '0' :: p) ((two n).toList ++ cs) :=
  fits_digits_append (fun _ => isDigit_of_mem_padded) (length_two hn) h

theorem fits_afterYear (t : Timestamp) : Fits "-00-00T00:00:00Z".toList t.afterYear := by
  obtain ⟨-, hmonth, hday⟩ := lt_of_isValid t.isValid_date
  have hhour : t.hour < 24 := Nat.mod_lt _ (by decide)
  have hminute : t.minute < 60 := Nat.mod_lt _ (by decide)
  have hsecond : t.second < 60 := Nat.mod_lt _ (by decide)
  apply fits_cons '-' (by decide)
  apply fits_two_append hmonth
  apply fits_cons '-' (by decide)
  apply fits_two_append hday
  apply fits_cons 'T' (by decide)
  apply fits_two_append (by omega)
  apply fits_cons ':' (by decide)
  apply fits_two_append (by omega)
  apply fits_cons ':' (by decide)
  apply fits_two_append (by omega)
  apply fits_cons 'Z' (by decide)
  exact .nil

/-- A stamp has the form of one just from the year 1000 on: the year is not padded. -/
theorem fits_stamp_iff (t : Timestamp) :
    Fits "0000-00-00T00:00:00Z".toList t.stamp.toList ↔ 1000 ≤ t.date.year := by
  have hyear : t.date.year < 10 ^ 4 := (lt_of_isValid t.isValid_date).1
  have hlong : (Nat.toDigits 10 t.date.year).length ≤ 4 :=
    (Nat.length_toDigits_le_iff (by decide) (by decide)).mpr hyear
  have hshort : (Nat.toDigits 10 t.date.year).length ≤ 3 ↔ t.date.year < 10 ^ 3 :=
    Nat.length_toDigits_le_iff (by decide) (by decide)
  rw [toList_stamp]
  constructor
  · intro h
    have hlength : 20 = (Nat.toDigits 10 t.date.year ++ t.afterYear).length := h.length_eq
    rw [List.length_append, length_afterYear] at hlength
    omega
  · intro h
    have hdigits : ∀ c ∈ Nat.toDigits 10 t.date.year, c.isDigit := fun _ => isDigit_of_mem_toDigits
    exact fits_digits_append hdigits (by omega : _ = 4) t.fits_afterYear

/-- A stamp of that form spells the second that it tells. -/
theorem read_of_fits (h : t.offset = some 0)
    (hfits : Fits "0000-00-00T00:00:00Z".toList t.stamp.toList) : read t.stamp = .ok t.whole := by
  have hlength : 20 = t.stamp.toList.length := hfits.length_eq
  have hread := ofStamp?_stamp h
  rw [ofStamp?, ← hlength] at hread
  cases hstamp : read t.stamp <;> simp_all [Except.toOption]

end Form

end ChatAudit.Timestamp
