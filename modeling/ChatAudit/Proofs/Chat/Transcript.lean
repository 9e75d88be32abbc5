import ChatAudit.Chat.Transcript
import ChatAudit.Proofs.Calendar.Zone

/-! Which logs have no text: those from an instant that the UTC clock does not reach. -/
namespace ChatAudit

variable {zone : Zone} {logs : List Log}

theorem exists_text_error_iff {l : Log} :
    (∃ f, l.text zone = .error f) ↔ l.createdAt.OffCalendar zone := by
  rw [← Timestamp.exists_toUtc_error_iff, Log.text]
  cases l.createdAt.toUtc zone with
  | ok t => exact iff_of_false nofun nofun
  | error f => exact iff_of_true ⟨f, rfl⟩ ⟨f, rfl⟩

/-- One such log is enough for the transcript to fail. -/
theorem exists_transcript_error_iff :
    (∃ f, transcript zone logs = .error f) ↔ ∃ l ∈ logs, l.createdAt.OffCalendar zone := by
  have hmapM := @exists_mapM_error_iff _ _ _ (Log.text zone) logs
  simp only [exists_text_error_iff] at hmapM
  rw [← hmapM, transcript]
  generalize logs.mapM (Log.text zone) = texts
  cases texts <;> simp [bind, Except.bind, pure, Except.pure]

/-- Logs from three days off both ends of the calendar have one in every zone. -/
theorem exists_transcript (hbounded : ∀ l ∈ logs, l.createdAt.Bounded)
    (hlow : ∀ l ∈ logs, 3 * Calendar.dayLength ≤ l.createdAt.clock)
    (hhigh : ∀ l ∈ logs, l.createdAt.clock + 2 * Calendar.dayLength ≤ Calendar.limit) :
    ∃ text, transcript zone logs = .ok text := by
  cases htext : transcript zone logs with
  | ok text => exact ⟨text, rfl⟩
  | error f =>
    obtain ⟨l, hl, hoff⟩ := exists_transcript_error_iff.mp ⟨f, htext⟩
    exact absurd hoff (Timestamp.not_offCalendar (hbounded l hl) (hlow l hl) (hhigh l hl))

end ChatAudit
