import ChatAudit.Proofs.Api.Envelope
import ChatAudit.Proofs.Api.Traffic

/-! What is logged about an operation, and which failures are not. -/
namespace ChatAudit.Api

/-- Whether nothing is logged about a failure. -/
def Failure.Silent : Failure → Prop
  | .transport _ | .notJson _ | .refused .. => True
  | .status .. | .mismatch .. => False

namespace Exchange
variable {α : Type}

/-- Whether the exchange ends with a failure. -/
def Fails (e : Exchange α) : Prop := ∃ f, e.outcome = .error (.failed f)

/-- Whether a warning is logged. -/
def Warns (e : Exchange α) : Prop := ∃ record ∈ e.log, record.severity = .warning

end Exchange

/-- The replies that make an operation fail without a warning. -/
inductive Unlogged (op : Operation) (request : Request) : Reply → Prop
  | lost (reason : String) : Unlogged op request (.lost reason)
  /-- The redirect does not lead to an address. -/
  | location {r : Response} {l : String} (hscheme : hasScheme request.url)
      (hredirect : Status.isRedirect r.status) (hl : r.header? "location" = some l)
      (h : ∀ target, Url.read l ≠ .ok target) : Unlogged op request (.response r)
  | notJson {r : Response} (hscheme : hasScheme request.url) (hs : Status.isSuccess r.status)
      (hexport : op.isExport = false) (h : Json.readBytes? r.body = none) :
      Unlogged op request (.response r)
  /-- The gateway reports a failure of its own. -/
  | refused {r : Response} {v : Json} (hscheme : hasScheme request.url)
      (hs : Status.isSuccess r.status) (hexport : op.isExport = false)
      (hv : Json.readBytes? r.body = some v) (h : ¬v.Succeeds) : Unlogged op request (.response r)

/-- What is logged about the end of an operation. -/
def warnings {α : Type} (request : Request) : Except Fault α → List Record
  | .error (.failed f) => ((f.warning? request).map (Record.mk .warning)).toList
  | _ => []

variable {c : Client} {op : Operation} {call : Call} {request : Request} {reply : Reply}
  {r : Response} {v : Json} {f : Failure} {url : String}

theorem Failure.warning?_eq_none_iff (request : Request) : f.warning? request = none ↔ f.Silent := by
  cases f <;> simp [warning?, Silent]

section Receive

theorem silent_of_receive (h : receive request reply = .error (.failed f)) : f.Silent := by
  cases reply with
  | lost reason =>
    obtain rfl := Fault.failed.inj (Except.error.inj h)
    trivial
  | response r =>
    have hnot : ¬request.Takes r := by
      intro htakes
      rw [receive_of_takes htakes] at h
      cases h
    obtain ⟨e, he, hstatus⟩ := receive_of_not_takes hnot
    have hnone : f.status? = none := hstatus f (Except.error.inj (he.symm.trans h))
    cases f with
    | transport reason => trivial
    | _ => cases hnone

theorem checkLocation_failed_iff {u : Url} {l : String} :
    (∃ f, checkLocation u l = .error (.failed f)) ↔ ∀ target, Url.read l ≠ .ok target := by
  unfold checkLocation
  cases Url.read l with
  | error e => simp
  | ok target =>
    dsimp only
    split_ifs
    · split <;> simp
    · simp

/-- A response that arrives is only lost on a redirect whose location is no address. -/
theorem receive_failed_iff : (∃ f, receive request (.response r) = .error (.failed f)) ↔
    hasScheme request.url ∧ Status.isRedirect r.status ∧
      ∃ l, r.header? "location" = some l ∧ ∀ target, Url.read l ≠ .ok target := by
  by_cases hscheme : hasScheme request.url
  · by_cases hredirect : Status.isRedirect r.status
    · cases hl : r.header? "location" with
      | none => simp [receive, hscheme, hredirect, hl, pure, Except.pure]
      | some l =>
        have hreceive : receive request (.response r) =
            checkLocation request.url l >>= fun _ => .ok r := by
          simp [receive, hscheme, hredirect, hl, pure, Except.pure, bind, Except.bind]
        simp only [hreceive, bind_eq_error, hscheme, hredirect, true_and, Option.some.injEq,
          exists_eq_left', ← checkLocation_failed_iff (u := request.url)]
        simp
    · simp [receive, hscheme, hredirect, pure, Except.pure]
  · simp [receive_of_no_scheme hscheme, hscheme]

end Receive

section Answer

/-- A body is silently turned down if it is no JSON, or reports a failure of the gateway. -/
theorem readBody_silent_iff (url : String) : (∃ f, readBody r url = .error f ∧ f.Silent) ↔
    Status.isSuccess r.status ∧ ∀ v, Json.readBytes? r.body = some v → ¬v.Succeeds := by
  by_cases hs : Status.isSuccess r.status
  · cases hv : Json.readBytes? r.body with
    | none =>
      have hbody : readBody r url = .error (.notJson r.status) := by
        simp only [readBody, checkStatus_of_success url hs, hv, bind, Except.bind]
      simp [hbody, hs, Failure.Silent]
    | some v =>
      rw [readBody_of_success url hs hv]
      by_cases hsuccess : v.Succeeds
      · obtain ⟨w, hw⟩ := v.exists_tells
        simp [unwrap_of_tells r.status hw hsuccess, hsuccess]
      · obtain ⟨code, hwraps, hnull, hzero⟩ := Json.not_succeeds_iff.mp hsuccess
        obtain ⟨message, hunwrap⟩ := unwrap_of_wraps r.status hwraps hnull hzero
        simp [hunwrap, hsuccess, hs, Failure.Silent]
  · have hbody : ∃ detail code, readBody r url = .error (.status r.status detail code) :=
      ⟨_, _, by simp only [readBody, checkStatus, hs]; rfl⟩
    obtain ⟨detail, code, hbody⟩ := hbody
    simp [hbody, hs, Failure.Silent]

/-- What does not fit its model is never turned down silently. -/
theorem readRecord_silent_iff {α : Type} (title : String) (empty : Json)
    (read : ChatAudit.Record.Reader α) :
    (∃ f, readRecord title empty read r url = .error f ∧ f.Silent) ↔
      ∃ f, readBody r url = .error f ∧ f.Silent := by
  unfold readRecord
  cases readBody r url with
  | error f => simp [bind, Except.bind]
  | ok v =>
    dsimp only [bind, Except.bind]
    split
    · simp
    · simp [Failure.Silent]

theorem readFile_not_silent {default : String} (h : readFile default r url = .error f) :
    ¬f.Silent := by
  rcases bind_eq_error.mp h with hc | ⟨_, -, hf⟩
  · unfold checkStatus at hc
    split_ifs at hc
    obtain rfl := Except.error.inj hc
    exact id
  · cases hf

theorem Operation.answer_silent_iff (url : String) : (∃ f, op.answer r url = .error f ∧ f.Silent) ↔
    op.isExport = false ∧ Status.isSuccess r.status ∧
      ∀ v, Json.readBytes? r.body = some v → ¬v.Succeeds := by
  cases op with
  | exportSessions _ | exportLogs _ =>
    constructor
    · rintro ⟨f, hf, hsilent⟩
      exact absurd hsilent (readFile_not_silent hf)
    · rintro ⟨⟨⟩, -⟩
  | plain _ =>
    rw [← readBody_silent_iff url]
    exact (and_iff_right rfl).symm
  | _ =>
    rw [← readBody_silent_iff url]
    exact (readRecord_silent_iff _ _ _).trans (and_iff_right rfl).symm

end Answer

theorem Operation.settle_of_silent_answer (hscheme : hasScheme request.url)
    (hs : Status.isSuccess r.status) (hexport : op.isExport = false)
    (h : ∀ v, Json.readBytes? r.body = some v → ¬v.Succeeds) :
    ∃ f, op.settle request (.response r) = .error (.failed f) ∧ f.Silent := by
  obtain ⟨f, hf, hsilent⟩ := (answer_silent_iff request.url.text).mpr ⟨hexport, hs, h⟩
  have htakes : request.Takes r := (Request.takes_iff_of_success hs).mpr hscheme
  have hend := op.settle_of_takes htakes
  rw [hf] at hend
  exact ⟨f, hend, hsilent⟩

/-- The unlogged replies are those that make an operation fail in silence. -/
theorem Operation.settle_silent_iff :
    (∃ f, op.settle request reply = .error (.failed f) ∧ f.Silent) ↔
      Unlogged op request reply := by
  constructor
  · rintro ⟨f, hf, hsilent⟩
    cases reply with
    | lost reason => exact .lost reason
    | response r =>
      by_cases htakes : request.Takes r
      · rw [op.settle_of_takes htakes] at hf
        obtain ⟨_, hanswer, ⟨⟩⟩ := mapError_eq_error.mp hf
        obtain ⟨hexport, hs, h⟩ := (answer_silent_iff _).mp ⟨f, hanswer, hsilent⟩
        cases hv : Json.readBytes? r.body with
        | none => exact .notJson htakes.1 hs hexport hv
        | some v => exact .refused htakes.1 hs hexport hv (h v hv)
      · obtain ⟨e, he, -⟩ := receive_of_not_takes htakes
        simp only [settle, he] at hf
        obtain rfl := Except.error.inj hf
        obtain ⟨hscheme, hredirect, l, hl, h⟩ := receive_failed_iff.mp ⟨f, he⟩
        exact .location hscheme hredirect hl h
  · intro h
    cases h with
    | lost reason => exact ⟨_, rfl, trivial⟩
    | location hscheme hredirect hl h =>
      obtain ⟨f, hf⟩ := receive_failed_iff.mpr ⟨hscheme, hredirect, _, hl, h⟩
      exact ⟨f, by simp only [settle, hf], silent_of_receive hf⟩
    | notJson hscheme hs hexport h =>
      apply settle_of_silent_answer hscheme hs hexport
      intro v hv
      rw [h] at hv
      cases hv
    | refused hscheme hs hexport hv h =>
      apply settle_of_silent_answer hscheme hs hexport
      intro v' hv'
      rw [Option.some.inj (hv'.symm.trans hv)]
      exact h

section Warnings

theorem severity_of_mem_warnings {α : Type} {record : Record} {x : Except Fault α}
    (h : record ∈ warnings request x) : record.severity = .warning := by
  unfold warnings at h
  split at h
  · obtain ⟨text, -, rfl⟩ : ∃ text, _ ∧ Record.mk .warning text = record := by simpa using h
    rfl
  · cases h

theorem exists_warning_iff {α : Type} (request : Request) {x : Except Fault α} :
    (∃ record, record ∈ warnings request x) ↔ ∃ f, x = .error (.failed f) ∧ ¬f.Silent := by
  cases x with
  | ok a => simp [warnings]
  | error e =>
    cases e with
    | failed f =>
      have hiff := Failure.warning?_eq_none_iff (f := f) request
      cases hwarning : f.warning? request with
      | none => simp [warnings, hwarning, hiff.mp hwarning]
      | some text =>
        have hloud : ¬f.Silent := by simp [← hiff, hwarning]
        simp [warnings, hwarning, hloud]
    | _ => simp [warnings]

namespace Client

/-- A request that cannot be put together is at fault itself; no failure is told. -/
theorem request_not_failed : c.request call ≠ .error (.failed f) := by
  intro h
  unfold request at h
  rcases bind_eq_error.mp h with h | ⟨base, -, h⟩
  · obtain ⟨_, -, ⟨⟩⟩ := mapError_eq_error.mp h
  rcases bind_eq_error.mp h with h | ⟨bearer, -, h⟩
  · rcases bearer_cases c with ⟨-, bearer, hbearer⟩ | ⟨-, start, stop, first, hbearer⟩
    · cases hbearer.symm.trans h
    · cases hbearer.symm.trans h
  rcases bind_eq_error.mp h with h | ⟨url, -, h⟩
  · obtain ⟨_, -, ⟨⟩⟩ := mapError_eq_error.mp h
  rcases bind_eq_error.mp h with h | ⟨text, -, h⟩
  · cases hbody : call.body with
    | none =>
      rw [hbody] at h
      cases h
    | some body =>
      rw [hbody, Option.mapM_some] at h
      unfold bodyText at h
      split_ifs at h <;> cases h
  · cases h

theorem log_of_request (hcall : op.call = .ok call) (hrequest : c.request call = .ok request) :
    (c.perform op reply).log =
      ⟨.debug, call.method ++ " " ++ call.path⟩ :: warnings request (op.settle request reply) := by
  unfold perform Operation.settle
  simp only [hcall, hrequest]
  cases hreceive : receive request reply with
  | error e =>
    cases e with
    | failed f =>
      have hnone := (Failure.warning?_eq_none_iff request).mpr
        (silent_of_receive hreceive)
      simp [warnings, hnone]
    | _ => rfl
  | ok r =>
    dsimp only
    cases op.answer r request.url.text <;> rfl

/-- A warning is logged for each failure but the silent ones. -/
theorem warns_iff (hcall : op.call = .ok call) (hrequest : c.request call = .ok request)
    (reply : Reply) :
    (c.perform op reply).Warns ↔
      ∃ f, (c.perform op reply).outcome = .error (.failed f) ∧ ¬f.Silent := by
  rw [(perform_of_request hcall hrequest).2, ← exists_warning_iff request,
    Exchange.Warns, log_of_request hcall hrequest]
  constructor
  · rintro ⟨record, hmem, hseverity⟩
    rcases List.mem_cons.mp hmem with rfl | hmem
    · cases hseverity
    · exact ⟨record, hmem⟩
  · rintro ⟨record, hmem⟩
    exact ⟨record, List.mem_cons_of_mem _ hmem, severity_of_mem_warnings hmem⟩

/-- A call that cannot be sent is logged, and tells no failure. -/
theorem perform_of_unbuilt {e : Fault} (hcall : op.call = .ok call)
    (hrequest : c.request call = .error e) (reply : Reply) : c.perform op reply =
      { outcome := .error e, log := [⟨.debug, call.method ++ " " ++ call.path⟩] } := by
  simp only [perform, hcall, hrequest]

theorem debug_of_perform (hcall : op.call = .ok call) :
    (c.perform op reply).log.filter (·.severity = .debug) =
      [⟨.debug, call.method ++ " " ++ call.path⟩] := by
  cases hrequest : c.request call with
  | error e => simp [perform_of_unbuilt hcall hrequest reply]
  | ok request =>
    have hnone :
        (warnings request (op.settle request reply)).filter (·.severity = .debug) = [] := by
      rw [List.filter_eq_nil_iff]
      intro record hmem
      simp [severity_of_mem_warnings hmem]
    rw [log_of_request hcall hrequest, List.filter_cons_of_pos rfl, hnone]

/-- An operation is logged once for itself. No warning is logged unless it fails, and one is logged
if it fails just when the reply is none of those that make it fail in silence. -/
theorem warned_iff (hcall : op.call = .ok call) (reply : Reply) :
    (c.perform op reply).log.filter (·.severity = .debug) =
        [⟨.debug, call.method ++ " " ++ call.path⟩] ∧
      ((c.perform op reply).Warns → (c.perform op reply).Fails) ∧
      (((c.perform op reply).Warns ↔ (c.perform op reply).Fails) ↔
        ∀ request, (c.perform op reply).request = some request →
          ¬Unlogged op request reply) := by
  refine ⟨debug_of_perform hcall, ?_⟩
  cases hrequest : c.request call with
  | error e =>
    have hend := perform_of_unbuilt hcall hrequest reply
    have hquiet : ¬(c.perform op reply).Warns := by simp [hend, Exchange.Warns]
    have hnot : ¬(c.perform op reply).Fails := by
      rintro ⟨f, hf⟩
      rw [hend] at hf
      obtain rfl := Except.error.inj hf
      exact request_not_failed hrequest
    have hunsent : (c.perform op reply).request = none := by rw [hend]
    simp [hquiet, hnot, hunsent]
  | ok request =>
    obtain ⟨sent, hend⟩ : (c.perform op reply).request = some request ∧
        (c.perform op reply).outcome = op.settle request reply :=
      perform_of_request hcall hrequest
    have hwarns := warns_iff hcall hrequest reply
    have hfails : (c.perform op reply).Warns → (c.perform op reply).Fails := by
      intro h
      obtain ⟨f, hf, -⟩ := hwarns.mp h
      exact ⟨f, hf⟩
    refine ⟨hfails, ?_⟩
    simp only [sent, Option.some.injEq, forall_eq', ← Operation.settle_silent_iff, ← hend]
    constructor
    · rintro hiff ⟨f, hf, hsilent⟩
      obtain ⟨f', hf', hloud⟩ := hwarns.mp (hiff.mpr ⟨f, hf⟩)
      obtain rfl := Fault.failed.inj (Except.error.inj (hf.symm.trans hf'))
      exact hloud hsilent
    · intro hnone
      constructor
      · exact hfails
      · rintro ⟨f, hf⟩
        exact hwarns.mpr ⟨f, hf, fun hsilent => hnone ⟨f, hf, hsilent⟩⟩

end Client

end Warnings

theorem gateway_warned : (gateway.perform .listApiKeys (.response ⟨404, [], []⟩)).Warns := by
  have hcall : Operation.call .listApiKeys =
      .ok { method := "GET", path := "/admin/security/api-keys" } := rfl
  obtain ⟨-, -, hiff⟩ := Client.warned_iff (c := gateway) hcall (.response ⟨404, [], []⟩)
  have hfails : (gateway.perform .listApiKeys (.response ⟨404, [], []⟩)).Fails := ⟨_, rfl⟩
  refine (hiff.mpr ?_).mpr hfails
  intro request sent h
  cases h with
  | location _ hredirect => cases hredirect
  | notJson _ hs => cases hs
  | refused _ hs => cases hs

/-- A gateway that cannot be reached is told to the caller, but not to the log. -/
theorem gateway_lost_not_warned :
    (gateway.perform .listApiKeys (.lost "down")).log = [⟨.debug, "GET /admin/security/api-keys"⟩] ∧
      (gateway.perform .listApiKeys (.lost "down")).Fails ∧
      ¬(gateway.perform .listApiKeys (.lost "down")).Warns := by
  have hlog : (gateway.perform .listApiKeys (.lost "down")).log =
      [⟨.debug, "GET /admin/security/api-keys"⟩] := rfl
  refine ⟨hlog, ⟨_, rfl⟩, ?_⟩
  rw [Exchange.Warns, hlog]
  simp

end ChatAudit.Api
