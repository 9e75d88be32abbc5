import ChatAudit.Proofs.Calendar.Window
import ChatAudit.Proofs.Text.Digits
import Mathlib.Data.List.Induction

/-! Which ranges can be told, and for which of them no calendar reaches back. -/
namespace ChatAudit.Window
open Text

/-- Whether a text is one or more decimal digits, of any script, that spell `n`. -/
inductive Spells : List Char → Nat → Prop
  | one {c : Char} {d : Nat} (hd : digitValue? c = some d) : Spells [c] d
  | more {cs : List Char} {n : Nat} {c : Char} {d : Nat} (hn : Spells cs n)
    (hd : digitValue? c = some d) : Spells (cs ++ [c]) (10 * n + d)

/-- The units, and how many seconds they last. -/
inductive Lasts : Char → Nat → Prop
  | minute : Lasts 'm' 60
  | hour : Lasts 'h' 3600
  | day : Lasts 'd' 86400

/-- Whether a range is a number and a unit, apart from capitals and the blanks around it. -/
def Tells (range : String) (digits : List Char) (n unit : Nat) : Prop :=
  ∃ u, (lower (strip range)).toList = digits ++ [u] ∧ Spells digits n ∧ Lasts u unit

/-- Whether the text of a range is at fault, not its length. -/
def Fault.OfText : Fault → Prop
  | .malformed _ | .tooManyDigits _ => True
  | .beyondDays | .tooManyDays _ | .beforeFirstYear => False

section Amount
variable {cs digits : List Char} {c : Char} {values : List Nat} {n unit : Nat}

theorem unit?_eq_some_iff : unit? c = some unit ↔ Lasts c unit := by
  constructor
  · intro h
    unfold unit? at h
    split_ifs at h with hm hh hd <;> obtain rfl := Option.some.inj h
    · obtain rfl := beq_iff_eq.mp hm
      exact .minute
    · obtain rfl := beq_iff_eq.mp hh
      exact .hour
    · obtain rfl := beq_iff_eq.mp hd
      exact .day
  · rintro (_ | _ | _) <;> rfl

theorem mapM_concat_eq_some_iff : (cs ++ [c]).mapM digitValue? = some values ↔
    ∃ front d, cs.mapM digitValue? = some front ∧ digitValue? c = some d ∧
      front ++ [d] = values := by
  simp [List.mapM_append, Option.bind_eq_some_iff]

theorem ofDigits_concat (values : List Nat) (d : Nat) :
    ofDigits 10 (values ++ [d]) = 10 * ofDigits 10 values + d := by
  have hone : ofDigits 10 [d] = d := by simp [ofDigits]
  rw [ofDigits_append, hone, List.length_singleton, pow_one, Nat.mul_comm]

theorem Spells.exists_values (h : Spells cs n) : cs ≠ [] ∧ ∃ values,
    cs.mapM digitValue? = some values ∧ values.length = cs.length ∧ ofDigits 10 values = n := by
  induction h with
  | @one c d hd => exact ⟨List.cons_ne_nil c [], [d], by simp [hd], rfl, by simp [ofDigits]⟩
  | @more cs n c d _ hd ih =>
    obtain ⟨-, values, hvalues, hlength, rfl⟩ := ih
    refine ⟨by simp, values ++ [d], ?_, by simp [hlength], ofDigits_concat values d⟩
    exact mapM_concat_eq_some_iff.mpr ⟨values, d, hvalues, hd, rfl⟩

theorem spells_of_mapM (hne : cs ≠ []) (h : cs.mapM digitValue? = some values) :
    Spells cs (ofDigits 10 values) := by
  induction cs using List.reverseRecOn generalizing values with
  | nil => exact absurd rfl hne
  | append_singleton cs c ih =>
    obtain ⟨front, d, hfront, hd, rfl⟩ := mapM_concat_eq_some_iff.mp h
    by_cases hcs : cs = []
    · subst hcs
      obtain rfl := Option.some.inj hfront
      simpa [ofDigits] using Spells.one hd
    · rw [ofDigits_concat]
      exact .more (ih hcs hfront) hd

theorem amount?_eq_some_iff : amount? cs = some (values, unit) ↔
    ∃ digits u, cs = digits ++ [u] ∧ digits ≠ [] ∧ digits.mapM digitValue? = some values ∧
      unit? u = some unit := by
  constructor
  · intro h
    unfold amount? at h
    split at h
    · next u d ds hcs =>
      obtain ⟨values', hvalues, h⟩ := Option.bind_eq_some_iff.mp h
      obtain ⟨unit', hunit, h⟩ := Option.bind_eq_some_iff.mp h
      obtain ⟨rfl, rfl⟩ := Prod.mk.inj (Option.some.inj h)
      refine ⟨(d :: ds).reverse, u, ?_, by simp, hvalues, hunit⟩
      rw [← List.reverse_cons, ← hcs, List.reverse_reverse]
    · cases h
  · rintro ⟨digits, u, rfl, hne, hvalues, hunit⟩
    obtain ⟨d, ds, hds⟩ := List.exists_cons_of_ne_nil (mt List.reverse_eq_nil_iff.mp hne)
    have hdigits : (d :: ds).reverse = digits := by rw [← hds, List.reverse_reverse]
    have hreverse : (digits ++ [u]).reverse = u :: d :: ds := by rw [List.reverse_concat, hds]
    simp only [amount?, hreverse, hdigits, hvalues, hunit]
    rfl

end Amount

section Length
variable {range : String} {digits : List Char} {n unit : Nat}

theorem amount?_of_tells (h : Tells range digits n unit) : ∃ values,
    amount? (lower (strip range)).toList = some (values, unit) ∧ values.length = digits.length ∧
      ofDigits 10 values = n := by
  obtain ⟨u, hrange, hdigits, hunit⟩ := h
  obtain ⟨hne, values, hvalues, hlength, hn⟩ := hdigits.exists_values
  refine ⟨values, amount?_eq_some_iff.mpr ?_, hlength, hn⟩
  exact ⟨digits, u, hrange, hne, hvalues, unit?_eq_some_iff.mpr hunit⟩

theorem length_of_untold (h : ¬∃ digits n unit, Tells range digits n unit) :
    length range = .error (.malformed range) := by
  have hnone : amount? (lower (strip range)).toList = none := by
    rw [Option.eq_none_iff_forall_ne_some]
    rintro ⟨values, unit⟩ hamount
    obtain ⟨digits, u, hrange, hne, hvalues, hunit⟩ := amount?_eq_some_iff.mp hamount
    refine h ⟨digits, _, unit, u, hrange, spells_of_mapM hne hvalues, unit?_eq_some_iff.mp hunit⟩
  rw [length, hnone]

/-- A length that is not counted is longer than all days of the calendar. -/
theorem length_of_tells (h : Tells range digits n unit) (hshort : digits.length ≤ maxDigits) :
    length range = .ok (n * unit) ∨
      (∃ f, length range = .error f ∧ ¬f.OfText) ∧ Calendar.limit ≤ n * unit * 1000000 := by
  obtain ⟨values, hamount, hlength, rfl⟩ := amount?_of_tells h
  have hlimit : Calendar.limit = 315537897600000000 := by decide +kernel
  have hpow : Nat.pow 2 31 = 2147483648 := by decide +kernel
  rw [length, hamount]
  dsimp only
  rw [hpow]
  split_ifs with hlong hcount hdays
  · omega
  · exact .inr ⟨⟨_, rfl, id⟩, by omega⟩
  · exact .inr ⟨⟨_, rfl, id⟩, by omega⟩
  · exact .inl rfl

end Length

section Bounds
variable {Offset : Type} {range : String} {digits : List Char} {n unit : Nat} {f : Fault}
  {now : Moment Offset}

theorem bounds_of_error (h : length range = .error f) (now : Moment Offset) :
    bounds range now = .error f := by
  rw [bounds, h]
  rfl

theorem bounds_of_untold (h : ¬∃ digits n unit, Tells range digits n unit)
    (now : Moment Offset) : bounds range now = .error (.malformed range) :=
  bounds_of_error (length_of_untold h) now

theorem bounds_of_tells (h : Tells range digits n unit) (hshort : digits.length ≤ maxDigits)
    (hle : n * unit * 1000000 ≤ now.clock) :
    ∃ start, bounds range now = .ok (start, now) ∧ start.Before (n * unit * 1000000) now := by
  rcases length_of_tells h hshort with hlength | ⟨-, hlong⟩
  · exact bounds_of_le hlength hle
  · have hlt := now.clock_lt
    omega

theorem bounds_of_tells_lt (h : Tells range digits n unit) (hshort : digits.length ≤ maxDigits)
    (hlt : now.clock < n * unit * 1000000) :
    ∃ f, bounds range now = .error f ∧ ¬f.OfText := by
  rcases length_of_tells h hshort with hlength | ⟨⟨f, hf, htext⟩, -⟩
  · exact ⟨.beforeFirstYear, bounds_of_lt hlength hlt, id⟩
  · exact ⟨f, bounds_of_error hf now, htext⟩

/-- A range that tells a number of units reaches back exactly as far, unless the clock has not come
that far from the first moment of year 1. Any other range is at fault by its text. The clock may
have an offset of any kind, a number or the rule of a zone, and the start is told with the same. -/
theorem bounds_exact
    (hshort : ∀ digits n unit, Tells range digits n unit → digits.length ≤ maxDigits)
    (now : Moment Offset) :
    ((∃ f, bounds range now = .error f ∧ f.OfText) ↔ ¬∃ digits n unit, Tells range digits n unit) ∧
      ∀ digits n unit, Tells range digits n unit →
        (n * unit * 1000000 ≤ now.clock → ∃ start, bounds range now = .ok (start, now) ∧
          start.clock + n * unit * 1000000 = now.clock ∧ start.offset = now.offset ∧
          start.microsecond = now.microsecond ∧ start.clock ≤ now.clock) ∧
        ((∃ f, bounds range now = .error f ∧ ¬f.OfText) ↔ now.clock < n * unit * 1000000) := by
  refine ⟨⟨?_, fun h => ⟨_, bounds_of_untold h now, trivial⟩⟩, fun digits n unit h => ?_⟩
  · rintro ⟨f, hf, htext⟩ ⟨digits, n, unit, h⟩
    rcases Nat.lt_or_ge now.clock (n * unit * 1000000) with hlt | hle
    · obtain ⟨f', hf', htext'⟩ := bounds_of_tells_lt h (hshort digits n unit h) hlt
      obtain rfl := Except.error.inj (hf.symm.trans hf')
      exact htext' htext
    · obtain ⟨start, hstart, -⟩ := bounds_of_tells h (hshort digits n unit h) hle
      cases hf.symm.trans hstart
  · refine ⟨fun hle => ?_, ?_, bounds_of_tells_lt h (hshort digits n unit h)⟩
    · obtain ⟨start, hstart, hclock, hoffset⟩ := bounds_of_tells h (hshort digits n unit h) hle
      refine ⟨start, hstart, hclock, hoffset, ?_, by omega⟩
      unfold Moment.microsecond
      omega
    · rintro ⟨f, hf, -⟩
      by_contra hle
      obtain ⟨start, hstart, -⟩ :=
        bounds_of_tells h (hshort digits n unit h) (Nat.le_of_not_lt hle)
      cases hf.symm.trans hstart

/-- The second day of the year 2 on a clock eight hours ahead of UTC. -/
def earlyClock : Timestamp := ⟨366 * Calendar.dayLength + 7, some 480, by decide +kernel⟩

theorem toList_days : (lower (strip " ٣٦٦D\n")).toList = ['٣', '٦', '٦', 'd'] := by decide +kernel

theorem tells_days : Tells " ٣٦٦D\n" ['٣', '٦', '٦'] 366 86400 := by
  have hvalues : ['٣', '٦', '٦'].mapM digitValue? = some [3, 6, 6] := by decide +kernel
  exact ⟨'d', toList_days, spells_of_mapM (List.cons_ne_nil _ _) hvalues, .day⟩

theorem days_exact : (∀ digits n unit, Tells " ٣٦٦D\n" digits n unit → digits.length ≤ maxDigits) ∧
    ∃ start, bounds " ٣٦٦D\n" earlyClock = .ok (start, earlyClock) ∧ start.clock = 7 ∧
      start.offset = some 480 := by
  have hshort : ∀ digits n unit, Tells " ٣٦٦D\n" digits n unit → digits.length ≤ maxDigits := by
    rintro digits n unit ⟨u, hrange, -⟩
    have hlength := congrArg List.length (toList_days.symm.trans hrange)
    rw [List.length_append] at hlength
    have hmax : maxDigits = 4300 := rfl
    simp only [List.length_cons, List.length_nil] at hlength
    omega
  refine ⟨hshort, ?_⟩
  obtain ⟨-, htells⟩ := bounds_exact hshort earlyClock
  obtain ⟨hreaches, -⟩ := htells _ _ _ tells_days
  have hclock : earlyClock.clock = 366 * 86400 * 1000000 + 7 := by decide +kernel
  obtain ⟨start, hstart, hbefore, hoffset, -⟩ := hreaches (by omega)
  exact ⟨start, hstart, by omega, hoffset⟩

/-- Minutes ahead of UTC on clocks that are put forward in the night of 2026-03-29. -/
def summerRule (clock : Nat) : Int :=
  if clock < Calendar.Date.toDays ⟨2026, 3, 29⟩ * Calendar.dayLength + 7200000000 then 60 else 120

/-- The noon after that night. -/
def summerNoon : Moment (Nat → Int) :=
  ⟨Calendar.Date.toDays ⟨2026, 3, 29⟩ * Calendar.dayLength + 43200000000, summerRule, by decide⟩

/-- Two hours in a digit of the Kawi script, which came with Unicode 15.0. -/
def kawiHours : String := String.ofList [Char.ofNat 0x11f52, 'h']

/-- The start keeps the rule of its zone, which may put it another number of minutes ahead of UTC.
A digit that the table lacks is none. -/
theorem offset_not_kept : (∃ start, bounds "24h" summerNoon = .ok (start, summerNoon) ∧
      start.offset start.clock = 60 ∧ summerNoon.offset summerNoon.clock = 120) ∧
    bounds kawiHours summerNoon = .error (.malformed kawiHours) := by
  have hlength : length "24h" = .ok 86400 := by decide +kernel
  have hle : 86400 * 1000000 ≤ summerNoon.clock := by decide +kernel
  have hkawi : length kawiHours = .error (.malformed kawiHours) := by decide +kernel
  have hwinter : summerRule (summerNoon.clock - 86400 * 1000000) = 60 := by decide +kernel
  have hsummer : summerRule summerNoon.clock = 120 := by decide +kernel
  obtain ⟨start, hstart, hclock, hoffset⟩ := bounds_of_le hlength hle
  have hrule : start.offset = summerRule := hoffset
  have hback := Nat.eq_sub_of_add_eq hclock
  rw [← hback, ← hrule] at hwinter
  exact ⟨⟨start, hstart, hwinter, hsummer⟩, bounds_of_error hkawi summerNoon⟩

end Bounds
end ChatAudit.Window
