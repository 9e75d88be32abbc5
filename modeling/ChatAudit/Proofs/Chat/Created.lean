import ChatAudit.Proofs.Calendar.Stamp
import ChatAudit.Proofs.Chat.Transcript
import ChatAudit.Proofs.Json.Token
import ChatAudit.Proofs.Text.Parts

/-! The line of a log's text that tells when the log was made. -/
namespace ChatAudit
open Calendar Text

section Characters

theorem not_mem_toString {c : Char} (hc : Json.isWordChar c = false) (n : Int) :
    c ∉ (toString n).toList := by
  intro h
  exact absurd (Json.isWordChar_of_mem_toString h) (by simp [hc])

theorem not_mem_append_toList {c : Char} {s t : String} (hs : c ∉ s.toList) (ht : c ∉ t.toList) :
    c ∉ (s ++ t).toList := by
  rw [String.toList_append]
  exact List.not_mem_append hs ht

end Characters

namespace Log
variable {zone : Zone} {l : Log} {line : String}

theorem toList_textOf_cons (line : String) (lines : List String) :
    (textOf (line :: lines)).toList = line.toList ++ '\n' :: (textOf lines).toList := by
  simp [textOf]

theorem splitOn_textOf_cons (h : '\n' ∉ line.toList) (lines : List String) :
    splitOn '\n' (textOf (line :: lines)).toList =
      line.toList :: splitOn '\n' (textOf lines).toList := by
  rw [toList_textOf_cons, splitOn_append_cons, splitOn_of_not_mem h]
  rfl

/-- Whether a log has a text whose third line is labelled `created_at`, has the form of a stamp and
tells the second in which the log was made, on the UTC clock. -/
def Stamped (zone : Zone) (l : Log) : Prop :=
  ∃ text stamp u, l.text zone = .ok text ∧
    (splitOn '\n' text.toList)[2]? = some ("created_at: ".toList ++ stamp) ∧
    Timestamp.Fits "0000-00-00T00:00:00Z".toList stamp ∧
    Timestamp.read (String.ofList stamp) = .ok u ∧ u.offset = some 0 ∧
    (u.clock : Int) = l.createdAt.instant / 1000000 * 1000000

theorem text_eq_ok_iff {text : String} : l.text zone = .ok text ↔
    ∃ u, l.createdAt.toUtc zone = .ok u ∧ textOf (l.lines u.stamp) = text := by
  unfold Log.text
  cases l.createdAt.toUtc zone with
  | error f => exact ⟨nofun, nofun⟩
  | ok u =>
    constructor
    · intro h
      exact ⟨u, rfl, Except.ok.inj h⟩
    · rintro ⟨_, ⟨⟩, rfl⟩
      rfl

theorem created_line (l : Log) (u : Timestamp) :
    (splitOn '\n' (textOf (l.lines u.stamp)).toList)[2]? =
      some ("created_at: ".toList ++ u.stamp.toList) := by
  have hid : '\n' ∉ ("id: " ++ toString l.id).toList :=
    not_mem_append_toList (by decide) (not_mem_toString (by decide) l.id)
  have hcreated : '\n' ∉ ("created_at: " ++ u.stamp).toList :=
    not_mem_append_toList (by decide) (Timestamp.not_mem_stamp (by decide) (by decide))
  simp only [lines, header, List.cons_append]
  rw [splitOn_textOf_cons (by decide), splitOn_textOf_cons hid, splitOn_textOf_cons hcreated]
  simp

theorem stamped_iff_of_toUtc {u : Timestamp} (hu : l.createdAt.toUtc zone = .ok u) :
    l.Stamped zone ↔ yearStart 1000 * dayLength ≤ u.clock ∧
      (u.whole.clock : Int) = l.createdAt.instant / 1000000 * 1000000 := by
  rw [← Timestamp.le_year_iff, ← Timestamp.fits_stamp_iff]
  have hutc := (Timestamp.toUtc_spec hu).1
  constructor
  · rintro ⟨text, stamp, v, htext, hline, hfits, hread, -, hclock⟩
    obtain ⟨u', hu', rfl⟩ := text_eq_ok_iff.mp htext
    obtain rfl := Except.ok.inj (hu.symm.trans hu')
    rw [created_line] at hline
    obtain rfl := List.append_cancel_left (Option.some.inj hline)
    rw [String.ofList_toList, Timestamp.read_of_fits hutc hfits] at hread
    obtain rfl := Except.ok.inj hread
    exact ⟨hfits, hclock⟩
  · rintro ⟨hfits, hclock⟩
    refine ⟨_, u.stamp.toList, u.whole, text_eq_ok_iff.mpr ⟨u, hu, rfl⟩, created_line l u, hfits,
      ?_, hutc, hclock⟩
    rw [String.ofList_toList, Timestamp.read_of_fits hutc hfits]

theorem stamped_of_local (hlow : (yearStart 1000 * dayLength : Nat) ≤ l.createdAt.instant)
    (hhigh : l.createdAt.instant < limit) (hlocal : l.createdAt.offset = none →
      zone.aheadAt (l.createdAt.clock / 1000000 : Nat) = .ok 0) : l.Stamped zone := by
  obtain ⟨u, hu⟩ := Timestamp.exists_toUtc (by omega) hhigh hlocal
  have hclock := Timestamp.instant_eq hu hlocal
  refine (stamped_iff_of_toUtc hu).mpr ⟨by omega, ?_⟩
  rw [← hclock]
  exact Int.natCast_mul ..

/-- A text tells the time as it should just in the years that have four digits on the UTC clock,
and for a clock without an offset just where the zone keeps UTC. -/
theorem stamped_iff (zone : Zone) (l : Log) :
    l.Stamped zone ↔ (yearStart 1000 * dayLength : Nat) ≤ l.createdAt.instant ∧
      l.createdAt.instant < limit ∧
      (l.createdAt.offset = none →
        zone.aheadAt (l.createdAt.clock / 1000000 : Nat) = .ok 0) := by
  refine ⟨fun h => ?_, fun ⟨hlow, hhigh, hlocal⟩ => stamped_of_local hlow hhigh hlocal⟩
  obtain ⟨u, hu⟩ : ∃ u, l.createdAt.toUtc zone = .ok u := by
    obtain ⟨_, _, _, htext, -⟩ := h
    obtain ⟨u, hu, -⟩ := text_eq_ok_iff.mp htext
    exact ⟨u, hu⟩
  obtain ⟨hyear, hwhole⟩ := (stamped_iff_of_toUtc hu).mp h
  have hlocal := Timestamp.aheadAt_of_whole hu hwhole
  have hclock := Timestamp.instant_eq hu hlocal
  have hlt := u.clock_lt
  exact ⟨by omega, by omega, hlocal⟩

/-- In a process that keeps UTC those years are enough. -/
theorem stamped_utc (hlow : (yearStart 1000 * dayLength : Nat) ≤ l.createdAt.instant)
    (hhigh : l.createdAt.instant < limit) : l.Stamped .utc := by
  refine stamped_of_local hlow hhigh fun hoffset => Zone.aheadAt_utc ?_ ?_
  · have hday : 86400 * 1000000 ≤ yearStart 1000 * dayLength := by decide
    have hinstant : l.createdAt.instant = l.createdAt.clock := by
      simp [Timestamp.instant, hoffset]
    omega
  · have hlt := l.createdAt.clock_lt
    have hseconds : limit / 1000000 * 1000000 = limit := by decide
    omega

end Log

/-- The record of a log from the first moment of the year 999. -/
def earlyRecord : Dict Json :=
  [("id", .int 1), ("session_id", .str "s"), ("created_at", .str "0999-01-01T00:00:00Z")]

def early : Timestamp := ⟨yearStart 999 * dayLength, some 0, by decide⟩

theorem early_not_stamped : ∃ l, Log.read earlyRecord = .accepted l ∧
    ∀ zone, ¬l.Stamped zone := by
  have hread : Timestamp.read "0999-01-01T00:00:00Z" = .ok early := by decide +kernel
  have hcreated : Record.instant (.str "0999-01-01T00:00:00Z") = .accepted early := by
    rw [Record.instant, hread]
  refine ⟨⟨1, "s", none, none, none, none, none, none, none, none, none, false, none, [], early⟩,
    ?_, fun zone h => ?_⟩
  · change _ <*> (Record.instant (.str "0999-01-01T00:00:00Z")).below (.key "created_at") = _
    rw [hcreated]
    rfl
  · have hlow := ((Log.stamped_iff zone _).mp h).1
    revert hlow
    decide

end ChatAudit
