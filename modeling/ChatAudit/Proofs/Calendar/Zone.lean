import ChatAudit.Calendar.Zone
import ChatAudit.Proofs.Calendar.Offset
import ChatAudit.Proofs.Except
import Mathlib.Tactic.SplitIfs

/-! Clocks moved to UTC: what is shown there, and which of them leave the calendar. -/
namespace ChatAudit

namespace Zone
variable {zone : Zone} {second time : Int} {f : Timestamp.ShiftFault}

theorem shows_ne_error (hlow : 86400 ≤ second)
    (hhigh : second + 86400 ≤ (Calendar.limit / 1000000 : Nat)) : zone.shows second ≠ .error f := by
  have hahead := zone.ahead_lt second
  unfold shows
  dsimp only
  rw [if_neg (by omega), if_neg (by omega)]
  exact nofun

/-- All guesses lie less than two days before the time or less than a day after it. -/
theorem exists_secondOf (zone : Zone) (hlow : 3 * 86400 ≤ time)
    (hhigh : time + 2 * 86400 ≤ (Calendar.limit / 1000000 : Nat)) :
    ∃ second, zone.secondOf time = .ok second := by
  cases h : zone.secondOf time with
  | ok second => exact ⟨second, rfl⟩
  | error f =>
    exfalso
    have hguess := zone.ahead_lt time
    rcases bind_eq_error.mp h with h | ⟨_, -, h⟩
    · exact shows_ne_error (by omega) (by omega) h
    rcases bind_eq_error.mp h with h | ⟨shown, -, h⟩
    · exact shows_ne_error (by omega) (by omega) h
    generalize hbefore : (if shown = time then time - zone.ahead time - 86400
      else time - zone.ahead time) = before at h
    have hother := zone.ahead_lt before
    have hnear : time - 2 * 86400 < before ∧ before < time + 86400 := by
      split_ifs at hbefore <;> omega
    rcases bind_eq_error.mp h with h | ⟨_, -, h⟩
    · exact shows_ne_error (by omega) (by omega) h
    rcases bind_eq_error.mp h with h | ⟨_, -, h⟩
    · exact shows_ne_error (by omega) (by omega) h
    · cases h

theorem exists_aheadAt (zone : Zone) (time : Int) (hlow : 3 * 86400 ≤ time)
    (hhigh : time + 2 * 86400 ≤ (Calendar.limit / 1000000 : Nat)) :
    ∃ second, zone.aheadAt time = .ok (zone.ahead second) := by
  obtain ⟨second, hsecond⟩ := exists_secondOf zone hlow hhigh
  exact ⟨second, bind_eq_ok.mpr ⟨second, hsecond, rfl⟩⟩

theorem shows_utc (hlow : 0 ≤ second) (hhigh : second < (Calendar.limit / 1000000 : Nat)) :
    utc.shows second = .ok second := by
  unfold shows utc
  dsimp only
  rw [add_zero, if_neg (by omega), if_neg (by omega)]

theorem aheadAt_utc (hlow : 86400 ≤ time) (hhigh : time < (Calendar.limit / 1000000 : Nat)) :
    utc.aheadAt time = .ok 0 := by
  have htime : utc.shows time = .ok time := shows_utc (by omega) hhigh
  have hbefore : utc.shows (time - 86400) = .ok (time - 86400) := shows_utc (by omega) (by omega)
  have hguess : time - utc.ahead time = time := sub_zero time
  have hother : time - utc.ahead (time - 86400) = time := sub_zero time
  have hsecond : utc.secondOf time = .ok time := by
    simp only [secondOf, htime, hguess, bind, Except.bind, if_pos, hbefore, hother]
    rfl
  exact bind_eq_ok.mpr ⟨time, hsecond, rfl⟩

end Zone

namespace Timestamp
variable {zone : Zone} {t u : Timestamp}

/-- Whether the UTC clock cannot show the instant: either the zone does not tell how far the clock
is ahead, or the instant lies outside the calendar there. -/
def OffCalendar (zone : Zone) (t : Timestamp) : Prop :=
  ∀ ahead, t.ahead zone = .ok ahead →
    (t.clock : Int) - ahead < 0 ∨ Calendar.limit ≤ (t.clock : Int) - ahead

theorem toUtc_spec (h : t.toUtc zone = .ok u) :
    u.offset = some 0 ∧ t.ahead zone = .ok ((t.clock : Int) - u.clock) := by
  obtain ⟨ahead, hahead, h⟩ := bind_eq_ok.mp h
  unfold ofClock? at h
  split_ifs at h with hclock
  obtain rfl := Except.ok.inj h
  refine ⟨rfl, hahead.trans (congrArg Except.ok ?_)⟩
  dsimp only
  omega

theorem exists_toUtc_error_iff : (∃ f, t.toUtc zone = .error f) ↔ t.OffCalendar zone := by
  constructor
  · rintro ⟨f, h⟩ ahead hahead
    rcases bind_eq_error.mp h with h | ⟨ahead', hahead', h⟩
    · cases hahead.symm.trans h
    · obtain rfl := Except.ok.inj (hahead.symm.trans hahead')
      unfold ofClock? at h
      split_ifs at h with hclock
      · cases h
      · omega
  · intro hoff
    cases h : t.toUtc zone with
    | error f => exact ⟨f, rfl⟩
    | ok u =>
      have hclock := hoff _ (toUtc_spec h).2
      have hlt := u.clock_lt
      omega

/-- Three days off both ends of the calendar no zone is in the way. -/
theorem not_offCalendar (hbounded : t.Bounded) (hlow : 3 * Calendar.dayLength ≤ t.clock)
    (hhigh : t.clock + 2 * Calendar.dayLength ≤ Calendar.limit) : ¬t.OffCalendar zone := by
  intro hoff
  unfold Calendar.dayLength at hlow hhigh
  cases ho : t.offset with
  | none =>
    obtain ⟨second, hsecond⟩ := zone.exists_aheadAt (t.clock / 1000000 : Nat)
      (by omega) (by omega)
    have hahead := zone.ahead_lt second
    have hclock := hoff (zone.ahead second * 1000000)
      (by rw [ahead, ho]; exact bind_eq_ok.mpr ⟨_, hsecond, rfl⟩)
    omega
  | some minutes =>
    have hminutes : minutes.natAbs < 1440 := hbounded minutes ho
    have hclock := hoff (minutes * 60000000) (by rw [ahead, ho])
    omega

end Timestamp
end ChatAudit
