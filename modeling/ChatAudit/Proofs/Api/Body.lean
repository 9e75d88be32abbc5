import ChatAudit.Api.Operation
import ChatAudit.Proofs.Payload.Fit
import ChatAudit.Proofs.Payload.Wire

/-! What operations send for entries that fit their requests. -/
namespace ChatAudit

/-- Whether requests of the form are sent as a query, not as a body. -/
def Payload.Form.isQuery : Payload.Form → Bool
  | .sessions | .messages | .logs => true
  | _ => false

namespace Api

variable {form : Payload.Form} {d w : Dict Json} {path : String}

/-- Whether an operation posts `wire`, written as it is, to the resource at `path`. -/
def Operation.Posts (op : Operation) (path : String) (wire : Dict Json) : Prop :=
  op.call = .ok { method := "POST", path := root ++ path, body := some wire } ∧
    Client.bodyText wire = .ok (Json.obj wire).write

/-- Whether an operation asks with `params` for the resource at `path`. -/
def Operation.Gets (op : Operation) (path : String) (params : Dict Json) : Prop :=
  op.call = .ok { method := "GET", path := root ++ path, params := some params }

/-- The operations that take a request record. -/
def Operation.taking : Payload.Form → List (Argument → Operation)
  | .sessions => [.listSessions, .exportSessions]
  | .messages => [.listMessages]
  | .logs => [.listLogs, .exportLogs, .statistics]
  | .logDeletion => [.deleteLogs]
  | .sessionDeletion => [.deleteSessions]
  | .summary => [.summarize]
  | .conversation => [.converse]

/-- What `get` asks for with parameters. -/
def Operation.query (path : String) (patient : Bool) (params : Dict Json) : Call :=
  { method := "GET", path := root ++ path, params := some params, patient }

/-- What `post` asks for with a body. -/
def Operation.message (path : String) (body : Dict Json) : Call :=
  { method := "POST", path := root ++ path, body := some body }

theorem get_eq_map (path : String) (form : Payload.Form) (a : Argument) :
    Operation.get path form a = (a.resolve form).map (Operation.query path false) := by
  unfold Operation.get
  cases a.resolve form <;> rfl

theorem get_patient_eq_map (path : String) (form : Payload.Form) (a : Argument) :
    (do return { ← Operation.get path form a with patient := true }) =
      (a.resolve form).map (Operation.query path true) := by
  unfold Operation.get
  cases a.resolve form <;> rfl

theorem post_eq_map (path : String) (form : Payload.Form) (a : Argument) :
    Operation.post path form a = (a.resolve form).map (Operation.message path) := by
  unfold Operation.post
  cases a.resolve form <;> rfl

theorem query_of_taking {op : Argument → Operation} (hform : form.isQuery)
    (h : op ∈ Operation.taking form) : ∃ path patient, ∀ a : Argument,
      (op a).call = (a.resolve form).map (Operation.query path patient) := by
  cases form <;> simp only [Operation.taking, List.mem_cons, List.not_mem_nil, or_false] at h
  case sessions => rcases h with rfl | rfl <;> exact ⟨_, false, get_eq_map _ _⟩
  case messages =>
    obtain rfl := h
    exact ⟨_, false, get_eq_map _ _⟩
  case logs =>
    rcases h with rfl | rfl | rfl
    · exact ⟨_, true, get_patient_eq_map _ _⟩
    · exact ⟨_, true, get_patient_eq_map _ _⟩
    · exact ⟨_, false, get_eq_map _ _⟩
  all_goals cases hform

theorem message_of_taking {op : Argument → Operation} (hform : form.isQuery = false)
    (h : op ∈ Operation.taking form) : ∃ path, ∀ a : Argument,
      (op a).call = (a.resolve form).map (Operation.message path) := by
  cases form <;> simp only [Operation.taking, List.mem_cons, List.not_mem_nil, or_false] at h
  case sessions | messages | logs => cases hform
  all_goals
    obtain rfl := h
    exact ⟨_, post_eq_map _ _⟩

/-- Of an argument only its wire form shows in the call. -/
theorem call_of_taking {op : Argument → Operation} (h : op ∈ Operation.taking form) :
    ∃ build : Dict Json → Call, ∀ a : Argument, (op a).call = (a.resolve form).map build := by
  cases hform : form.isQuery with
  | true =>
    obtain ⟨_, _, hcall⟩ := query_of_taking hform h
    exact ⟨_, hcall⟩
  | false =>
    obtain ⟨_, hcall⟩ := message_of_taking hform h
    exact ⟨_, hcall⟩

theorem resolve_of_accepted {p : Payload} (h : Payload.read form d = .accepted p) :
    (Argument.entries d).resolve form = .ok p.wire := by
  simp only [Argument.resolve, h]

theorem bodyText_wire (p : Payload) : Client.bodyText p.wire = .ok (Json.obj p.wire).write :=
  if_pos p.isFinite_wire

/-- What is read as a request is posted in the wire form of the request. -/
theorem posts_of_accepted {op : Operation} {p : Payload}
    (hop : op.call = Operation.post path form (.entries d))
    (h : Payload.read form d = .accepted p) : op.Posts path p.wire := by
  refine ⟨?_, bodyText_wire p⟩
  rw [hop, Operation.post, resolve_of_accepted h]
  rfl

theorem posts_of_fits {op : Operation} (hop : op.call = Operation.post path form (.entries d))
    (hfit : Payload.Fits form d w) (h : Payload.Plain form d) :
    ∃ wire, op.Posts path wire ∧ wire.Perm w := by
  obtain ⟨p, hread, hperm⟩ := Payload.exists_read hfit h
  exact ⟨p.wire, posts_of_accepted hop hread, hperm⟩

theorem gets_of_fits {op : Operation} (hop : op.call = Operation.get path form (.entries d))
    (hfit : Payload.Fits form d w) (h : Payload.Plain form d) :
    ∃ params, op.Gets path params ∧ params.Perm w := by
  obtain ⟨p, hread, hperm⟩ := Payload.exists_read hfit h
  refine ⟨p.wire, ?_, hperm⟩
  rw [Operation.Gets, hop, Operation.get, resolve_of_accepted hread]
  rfl

end Api
end ChatAudit
