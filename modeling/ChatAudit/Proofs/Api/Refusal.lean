import ChatAudit.Proofs.Api.Outcome

/-! What becomes of a failure that the gateway reports in a successful response. -/
namespace ChatAudit

theorem Json.readBytes?_of_decode {bytes : List UInt8} {cs : List Char}
    (h : ((charsetOf bytes).decode bytes).toOption = some cs) : readBytes? bytes = read? cs := by
  unfold readBytes?
  split
  · next hd =>
    rw [hd] at h
    rw [Option.some.inj h]
  · next hd =>
    rw [hd] at h
    cases h

namespace Api
open ChatAudit.Record

/-- The code of the failure that the envelope in a body reports. -/
def Response.refusal? (r : Response) : Option Json :=
  match Json.readBytes? r.body with
  | some (.obj es) =>
    let code := (Dict.lookup? "code" es).getD .null
    if isEnvelope es && !isSuccessCode code then some code else none
  | _ => none

def Operation.isExport : Operation → Bool
  | exportSessions _ | exportLogs _ => true
  | _ => false

variable {r : Response} {code : Json}

theorem checkStatus_of_success (url : String) (hs : Status.isSuccess r.status) :
    checkStatus r url = .ok () := by
  simp [checkStatus, hs]

/-- Redirects are no successes, so that only the scheme matters. -/
theorem Request.takes_iff_of_success {request : Request} (hs : Status.isSuccess r.status) :
    request.Takes r ↔ hasScheme request.url := by
  have hr : ¬Status.isRedirect r.status := by
    have hb : 200 ≤ r.status ∧ r.status ≤ 299 := by simpa [Status.isSuccess] using hs
    intro h
    have hm : r.status = 301 ∨ r.status = 302 ∨ r.status = 303 ∨ r.status = 307 ∨
        r.status = 308 := by simpa [Status.isRedirect] using h
    omega
  simp [Request.Takes, hr]

theorem readBody_of_refusal (url : String) (hs : Status.isSuccess r.status)
    (h : r.refusal? = some code) :
    ∃ message, readBody r url = .error (.refused r.status message code) := by
  unfold Response.refusal? at h
  split at h
  · next es hv =>
    obtain ⟨⟨he, hc⟩, rfl⟩ : (isEnvelope es = true ∧
        isSuccessCode ((Dict.lookup? "code" es).getD .null) = false) ∧
        (Dict.lookup? "code" es).getD .null = code := by simpa using h
    refine ⟨(Dict.lookup? "message" es).getD .null, ?_⟩
    simp [readBody, checkStatus_of_success url hs, hv, unwrap, he, hc, bind, Except.bind]
  · cases h

theorem readRecord_of_refusal {α : Type} (title : String) (empty : Json) (read : Reader α)
    (url : String) (hs : Status.isSuccess r.status) (h : r.refusal? = some code) :
    ∃ message, readRecord title empty read r url = .error (.refused r.status message code) := by
  obtain ⟨message, hb⟩ := readBody_of_refusal url hs h
  exact ⟨message, bind_eq_error.mpr (.inl hb)⟩

namespace Operation
variable {op : Operation}

/-- Every operation but the exports looks into the envelope. -/
theorem answer_of_refusal (url : String) (hs : Status.isSuccess r.status)
    (h : r.refusal? = some code) (he : op.isExport = false) :
    ∃ message, op.answer r url = .error (.refused r.status message code) := by
  cases op with
  | exportSessions _ => cases he
  | exportLogs _ => cases he
  | plain _ => exact readBody_of_refusal url hs h
  | _ => exact readRecord_of_refusal _ _ _ url hs h

/-- An export takes any body of a successful response for the content of a file. -/
theorem answer_of_isExport (url : String) (hs : Status.isSuccess r.status)
    (he : op.isExport = true) :
    ∃ a f, op.answer r url = .ok a ∧ op.file? a = some f ∧ f.content = r.body := by
  cases op with
  | exportSessions _ =>
    exact ⟨_, _, by simp only [answer, readFile, checkStatus_of_success url hs]; rfl, rfl, rfl⟩
  | exportLogs _ =>
    exact ⟨_, _, by simp only [answer, readFile, checkStatus_of_success url hs]; rfl, rfl, rfl⟩
  | _ => cases he

end Operation

/-- The exact reach of the envelope rule: a failure that the gateway reports with a successful
status is raised with its code, except that an export hands it out as the content of a file. -/
theorem Client.refused_iff {c : Client} {op : Operation} {request : Request}
    (sent : (c.perform op (.response r)).request = some request)
    (hs : Status.isSuccess r.status) (refused : r.refusal? = some code) :
    ((∃ f, (c.perform op (.response r)).outcome = .error (.failed f) ∧ f.code = code) ↔
        hasScheme request.url ∧ op.isExport = false) ∧
      (hasScheme request.url → op.isExport = true →
        ∃ a f, (c.perform op (.response r)).outcome = .ok a ∧ op.file? a = some f ∧
          f.content = r.body) := by
  rw [outcome_of_sent sent]
  by_cases hsch : hasScheme request.url
  · have hend := op.settle_of_takes ((Request.takes_iff_of_success hs).mpr hsch)
    cases he : op.isExport with
    | false =>
      obtain ⟨message, ha⟩ := Operation.answer_of_refusal request.url.text hs refused he
      rw [ha] at hend
      exact ⟨iff_of_true ⟨_, hend, rfl⟩ ⟨hsch, rfl⟩, fun _ h => absurd h Bool.false_ne_true⟩
    | true =>
      obtain ⟨a, f, ha, hf, hc⟩ := Operation.answer_of_isExport request.url.text hs he
      rw [ha] at hend
      refine ⟨iff_of_false ?_ fun h => absurd h.2.symm Bool.false_ne_true,
        fun _ _ => ⟨a, f, hend, hf, hc⟩⟩
      rintro ⟨g, hg, -⟩
      rw [hend] at hg
      cases hg
  · have hend : op.settle request (.response r) = .error (.scheme request.url.text) := by
      simp only [Operation.settle, receive_of_no_scheme hsch]
    refine ⟨iff_of_false ?_ fun h => hsch h.1, fun h => absurd h hsch⟩
    rintro ⟨g, hg, -⟩
    rw [hend] at hg
    cases hg

/-- The body in which a gateway reports a failure. -/
def failureText : String := "\x7b\"code\":500,\"message\":\"boom\",\"data\":null\x7d"

def failureResponse : Response := ⟨200, [], Charset.encodeUtf8 failureText.toList⟩

theorem refusal?_failureResponse : failureResponse.refusal? = some (.int 500) := by
  have hd : ((Json.charsetOf failureResponse.body).decode failureResponse.body).toOption =
      some failureText.toList := by decide +kernel
  have hr : Json.read? failureText.toList =
      some (.obj [("code", .int 500), ("message", .str "boom"), ("data", .null)]) := rfl
  simp only [Response.refusal?, Json.readBytes?_of_decode hd, hr]
  rfl

theorem gateway_refused : ∃ request,
    (gateway.perform .listApiKeys (.response failureResponse)).request = some request ∧
      ∃ f, (gateway.perform .listApiKeys (.response failureResponse)).outcome =
        .error (.failed f) ∧ f.code = .int 500 := by
  have sent := gateway.request_perform .listApiKeys (.response failureResponse) (.lost "")
  exact ⟨_, sent, (Client.refused_iff sent rfl refusal?_failureResponse).1.mpr ⟨rfl, rfl⟩⟩

/-- An export saves the report as data. -/
theorem gateway_export_not_refused :
    failureResponse.refusal? = some (.int 500) ∧
      (gateway.perform (.exportSessions .nothing) (.response failureResponse)).outcome =
        .ok ⟨"security_sessions.csv", "application/octet-stream", failureResponse.body, false⟩ ∧
      ¬∃ f, (gateway.perform (.exportSessions .nothing) (.response failureResponse)).outcome =
        .error (.failed f) ∧ f.code = .int 500 := by
  have sent := gateway.request_perform (.exportSessions .nothing) (.response failureResponse)
    (.lost "")
  have h : (gateway.perform (.exportSessions .nothing) (.response failureResponse)).outcome =
      .ok ⟨"security_sessions.csv", "application/octet-stream", failureResponse.body, false⟩ :=
    (Client.outcome_of_sent sent).trans rfl
  refine ⟨refusal?_failureResponse, h, ?_⟩
  rintro ⟨f, hf, -⟩
  rw [h] at hf
  cases hf

end Api
end ChatAudit
