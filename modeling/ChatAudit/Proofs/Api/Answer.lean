import ChatAudit.Api.Operation
import ChatAudit.Proofs.Except
import Mathlib.Tactic.SplitIfs

/-! What a response is read as: answers that fit their model, and failures with its status. -/
namespace ChatAudit.Api
open ChatAudit.Record

namespace Operation

/-- Whether the model of the response lets an answer through. Files and plain requests have no
model. -/
def Accepts : (op : Operation) → op.Answer → Prop
  | listSessions _, a => ∃ v, record (Page.read Session.read) v = .accepted a
  | deleteSession .., a | deleteSessions _, a | deleteLogs _, a =>
    ∃ v, record Deletion.read v = .accepted a
  | listMessages _, a | listLogs _, a => ∃ v, record (Page.read Log.read) v = .accepted a
  | statistics _, a => ∃ v, record Statistics.read v = .accepted a
  | summarize _, a | converse _, a => ∃ v, record Summary.read v = .accepted a
  | listApiKeys, a => ∃ v, list (record ApiKey.read) v = .accepted a
  | exportSessions _, _ | exportLogs _, _ | plain _, _ => True

/-- The file that an answer is. -/
def file? : (op : Operation) → op.Answer → Option File
  | exportSessions _, f | exportLogs _, f => some f
  | _, _ => none

/-- The name of an exported file whose response does not name it. -/
def defaultName : Operation → String
  | exportLogs _ => "security_logs.txt.zip"
  | _ => "security_sessions.csv"

end Operation

section Checks
variable {α : Type} {r : Response} {url : String} {f : Failure}

theorem status?_of_checkStatus (h : checkStatus r url = .error f) :
    f.status? = some r.status := by
  unfold checkStatus at h
  split_ifs at h
  obtain rfl := Except.error.inj h
  rfl

theorem status?_of_unwrap {status : Int} {v : Json} (h : unwrap status v = .error f) :
    f.status? = some status := by
  cases v with
  | obj es =>
    simp only [unwrap] at h
    split_ifs at h
    obtain rfl := Except.error.inj h
    rfl
  | _ => cases h

theorem status?_of_readBody (h : readBody r url = .error f) : f.status? = some r.status := by
  rcases bind_eq_error.mp h with hc | ⟨_, -, hv⟩
  · exact status?_of_checkStatus hc
  · split at hv
    · exact status?_of_unwrap hv
    · obtain rfl := Except.error.inj hv
      rfl

theorem status?_of_readRecord {title : String} {empty : Json} {read : Reader α}
    (h : readRecord title empty read r url = .error f) : f.status? = some r.status := by
  rcases bind_eq_error.mp h with hb | ⟨v, -, hv⟩
  · exact status?_of_readBody hb
  · split at hv
    · cases hv
    · obtain rfl := Except.error.inj hv
      rfl

theorem accepted_of_readRecord {title : String} {empty : Json} {read : Reader α} {a : α}
    (h : readRecord title empty read r url = .ok a) : ∃ v, read v = .accepted a := by
  obtain ⟨v, -, hv⟩ := bind_eq_ok.mp h
  split at hv
  · next ha =>
    obtain rfl := Except.ok.inj hv
    exact ⟨_, ha⟩
  · cases hv

theorem status?_of_readFile {default : String} (h : readFile default r url = .error f) :
    f.status? = some r.status := by
  rcases bind_eq_error.mp h with hc | ⟨_, -, hf⟩
  · exact status?_of_checkStatus hc
  · cases hf

/-- A file has the name that the response gives it and the body for its content. -/
theorem readFile_spec {default : String} {file : File} (h : readFile default r url = .ok file) :
    file.filename = Disposition.filename (r.header? "content-disposition") default ∧
      file.content = r.body := by
  obtain ⟨_, -, hf⟩ := bind_eq_ok.mp h
  obtain rfl := Except.ok.inj hf
  exact ⟨rfl, rfl⟩

end Checks

namespace Operation
variable {op : Operation} {r : Response} {url : String}

/-- Whatever a response fails for, the failure has its status. -/
theorem status?_of_answer {f : Failure} (h : op.answer r url = .error f) :
    f.status? = some r.status := by
  cases op with
  | exportSessions _ => exact status?_of_readFile h
  | exportLogs _ => exact status?_of_readFile h
  | plain _ => exact status?_of_readBody h
  | _ => exact status?_of_readRecord h

theorem accepts_of_answer {a : op.Answer} (h : op.answer r url = .ok a) : op.Accepts a := by
  cases op with
  | exportSessions _ => trivial
  | exportLogs _ => trivial
  | plain _ => trivial
  | _ => exact accepted_of_readRecord h

theorem file_of_answer {a : op.Answer} {file : File} (h : op.answer r url = .ok a)
    (hf : op.file? a = some file) :
    file.filename =
        Disposition.filename (r.header? "content-disposition") op.defaultName ∧
      file.content = r.body := by
  cases op with
  | exportSessions _ =>
    obtain rfl := Option.some.inj hf
    exact readFile_spec h
  | exportLogs _ =>
    obtain rfl := Option.some.inj hf
    exact readFile_spec h
  | _ => cases hf

end Operation

end ChatAudit.Api
