import ChatAudit.Proofs.Calendar.Iso
import ChatAudit.Record.Scalar

/-! Every instant that is read can be written and read again: its offset is less than a day. -/
namespace ChatAudit.Timestamp
open Calendar Text

variable {t : Timestamp} {cs : List Char} {minutes : Int} {offset : Option Int}

/-- Whether the offset, if there is one, is less than a day. -/
def Bounded (t : Timestamp) : Prop := ∀ o ∈ t.offset, Offset o

theorem offset_zero : Offset 0 := by
  unfold Offset
  decide

theorem natAbs_offsetSign? {c : Char} {sign : Int} (h : offsetSign? c = some sign) :
    sign.natAbs = 1 := by
  unfold offsetSign? at h
  split_ifs at h <;> cases h <;> rfl

theorem offset?_bounded (h : offset? cs = some (some minutes)) : Offset minutes := by
  cases cs with
  | nil => cases h
  | cons c cs =>
    unfold offset? at h
    dsimp only at h
    split_ifs at h
    · cases h
      exact offset_zero
    · obtain ⟨sign, hsign, h⟩ := Option.bind_eq_some_iff.mp h
      obtain ⟨⟨hour, _⟩, -, h⟩ := Option.bind_eq_some_iff.mp h
      obtain ⟨⟨minute, _⟩, -, h⟩ := Option.bind_eq_some_iff.mp h
      dsimp only at h
      split_ifs at h with hclock
      simp only [Bool.and_eq_true, decide_eq_true_eq] at hclock
      obtain rfl : sign * (hour * 60 + minute : Nat) = minutes := by simpa using h
      unfold Offset
      rw [Int.natAbs_mul, natAbs_offsetSign? hsign, Int.natAbs_natCast]
      omega

theorem offset_of_ofClock? {clock : Int} (h : ofClock? clock offset = some t) :
    t.offset = offset := by
  unfold ofClock? at h
  split_ifs at h
  cases h
  rfl

/-- Counts are counts on the UTC clock. -/
theorem bounded_of_utc {clock : Int} (h : ofClock? clock (some 0) = some t) : t.Bounded := by
  unfold Bounded
  rw [offset_of_ofClock? h]
  rintro o ⟨⟩
  exact offset_zero

theorem afterDate?_bounded {time : Nat} (h : afterDate? cs = some (time, offset)) :
    ∀ o ∈ offset, Offset o := by
  cases cs with
  | nil =>
    cases h
    nofun
  | cons c cs =>
    unfold afterDate? at h
    dsimp only at h
    split_ifs at h
    obtain ⟨⟨time', rest⟩, -, h⟩ := Option.bind_eq_some_iff.mp h
    obtain ⟨offset', hoffset, h⟩ := Option.bind_eq_some_iff.mp h
    cases h
    rintro o ⟨⟩
    exact offset?_bounded hoffset

theorem calendar?_bounded (h : calendar? cs = some (.ok t)) : t.Bounded := by
  unfold calendar? at h
  obtain ⟨⟨d, rest⟩, -, h⟩ := Option.bind_eq_some_iff.mp h
  obtain ⟨⟨time, offset⟩, hafter, h⟩ := Option.bind_eq_some_iff.mp h
  dsimp only at h
  split_ifs at h
  · cases h
  · split at h
    · next hclock =>
      cases h
      unfold Bounded
      rw [offset_of_ofClock? hclock]
      exact afterDate?_bounded hafter
    · cases h

theorem ofTextClock_bounded {clock : Int} (h : ofTextClock clock = .ok t) : t.Bounded := by
  unfold ofTextClock at h
  split at h
  · next hclock =>
    cases h
    exact bounded_of_utc hclock
  · cases h

theorem count?_bounded (h : count? cs = some (.ok t)) : t.Bounded := by
  unfold count? at h
  dsimp only at h
  split at h
  · split_ifs at h <;> exact ofTextClock_bounded (Option.some.inj h)
  · split_ifs at h
    obtain ⟨x, -, h⟩ := Option.bind_eq_some_iff.mp h
    obtain ⟨clock, -, h⟩ := Option.bind_eq_some_iff.mp h
    exact ofTextClock_bounded (Option.some.inj h)
  · cases h

theorem read_bounded {s : String} (h : read s = .ok t) : t.Bounded := by
  unfold read at h
  dsimp only at h
  split at h
  · next hcalendar => exact calendar?_bounded (h ▸ hcalendar)
  · cases hcount : count? s.toList with
    | none =>
      rw [hcount] at h
      cases h
    | some r =>
      rw [hcount] at h
      exact count?_bounded (hcount.trans (congrArg some h))

end ChatAudit.Timestamp

namespace ChatAudit.Record

variable {t : Timestamp} {v : Json}

theorem ofOption_eq_accepted {α : Type} {cause : Cause} {o : Option α} {a : α} :
    Checked.ofOption cause o = .accepted a ↔ o = some a := by
  cases o <;> simp [Checked.ofOption, Checked.reject]

theorem instant_bounded (h : instant v = .accepted t) : t.Bounded := by
  cases v with
  | int n =>
    unfold instant at h
    dsimp only at h
    split_ifs at h
    · cases h
    · exact Timestamp.bounded_of_utc (ofOption_eq_accepted.mp h)
  | float x =>
    obtain ⟨clock, -, hclock⟩ := Option.bind_eq_some_iff.mp (ofOption_eq_accepted.mp h)
    exact Timestamp.bounded_of_utc hclock
  | str s =>
    unfold instant at h
    dsimp only at h
    split at h
    · next hread =>
      cases h
      exact Timestamp.read_bounded hread
    · cases h
    · cases h
  | _ => cases h

/-- What is sent for an instant stands for the same instant. -/
theorem instant_wire (h : instant v = .accepted t) : instant (.str t.wire) = .accepted t := by
  unfold instant
  dsimp only
  rw [Timestamp.read_wire (instant_bounded h)]

end ChatAudit.Record
