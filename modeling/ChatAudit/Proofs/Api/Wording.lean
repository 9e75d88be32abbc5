import ChatAudit.Proofs.Api.Detail
import ChatAudit.Proofs.Api.Log

/-! Which failures have a text for their message. -/
namespace ChatAudit

/-- Whether the value is an object that tells of a failure: with a code that does not stand for
success, and a message that is present. -/
def Json.Blames (v code message : Json) : Prop :=
  ∃ es : Dict Json, v = .obj es ∧ es.lookup? "code" = some code ∧
    es.lookup? "message" = some message ∧ code ≠ .null ∧ ¬code.Zero ∧ message.present

namespace Api

/-- Whether the message is a text that is not empty. -/
def Failure.Worded (f : Failure) : Prop := ∃ s, s ≠ "" ∧ f.message = .str s

/-- What a response is turned down for. -/
inductive Rejects (op : Operation) (r : Response) (url : String) : Failure → Prop
  | status (hs : ¬Status.isSuccess r.status) :
    Rejects op r url (.status r.status (errorDetail r url).1 (errorDetail r url).2)
  | notJson (hs : Status.isSuccess r.status) (hexport : op.isExport = false)
    (h : Json.readBytes? r.body = none) : Rejects op r url (.notJson r.status)
  | refused {es : Dict Json} {code : Json} (hs : Status.isSuccess r.status)
    (hexport : op.isExport = false) (hv : Json.readBytes? r.body = some (.obj es))
    (hcode : es.lookup? "code" = some code) (hnull : code ≠ .null) (hzero : ¬code.Zero) :
    Rejects op r url (.refused r.status ((es.lookup? "message").getD .null) code)
  | mismatch {title : String} {issues : List Record.Issue} (hs : Status.isSuccess r.status)
    (hexport : op.isExport = false) : Rejects op r url (.mismatch r.status title issues)

/-- The replies that make an operation fail with a message that is no text: the gateway reports a
failure of its own and puts another value there. -/
inductive Wordless (op : Operation) (request : Request) : Reply → Prop
  | refused {r : Response} {v code message : Json} (hscheme : hasScheme request.url)
    (hs : Status.isSuccess r.status) (hexport : op.isExport = false)
    (hv : Json.readBytes? r.body = some v) (h : v.Blames code message)
    (htext : ∀ s, message ≠ .str s) : Wordless op request (.response r)

/-- Whether two operations fail with the same message and the same code. -/
def SameFailure {α β : Type} (x : Except Fault α) (y : Except Fault β) : Prop :=
  ∃ f f', x = .error (.failed f) ∧ y = .error (.failed f') ∧ f.message = f'.message ∧
    f.code = f'.code

variable {c : Client} {op : Operation} {call : Call} {request : Request} {reply : Reply}
  {r r' : Response} {v code message : Json} {f : Failure} {url : String}

section Rejects

theorem unwrap_eq_error {status : Int} (h : unwrap status v = .error f) :
    ∃ (es : Dict Json) (code : Json), v = .obj es ∧ es.lookup? "code" = some code ∧
      code ≠ .null ∧ ¬code.Zero ∧
      f = .refused status ((es.lookup? "message").getD .null) code := by
  cases v with
  | obj es =>
    simp only [unwrap] at h
    split_ifs at h with henvelope hsuccess
    obtain rfl := Except.error.inj h
    obtain ⟨code, _, ⟨⟩, hcode, -⟩ := isEnvelope_iff.mp (by simpa using henvelope)
    rw [hcode, Option.getD_some, isSuccessCode_iff, not_or] at hsuccess
    exact ⟨es, code, rfl, hcode, hsuccess.1, hsuccess.2, by rw [hcode]; rfl⟩
  | _ => cases h

theorem readBody_eq_error (h : readBody r url = .error f) (hs : Status.isSuccess r.status)
    (hexport : op.isExport = false) : Rejects op r url f := by
  cases hv : Json.readBytes? r.body with
  | none =>
    simp only [readBody, checkStatus_of_success url hs, hv] at h
    obtain rfl := Except.error.inj h
    exact .notJson hs hexport hv
  | some v =>
    rw [readBody_of_success url hs hv] at h
    obtain ⟨es, code, rfl, hcode, hnull, hzero, rfl⟩ := unwrap_eq_error h
    exact .refused hs hexport hv hcode hnull hzero

theorem readRecord_eq_error {α : Type} {title : String} {empty : Json}
    {read : ChatAudit.Record.Reader α} (h : readRecord title empty read r url = .error f)
    (hs : Status.isSuccess r.status) (hexport : op.isExport = false) : Rejects op r url f := by
  rcases bind_eq_error.mp h with hbody | ⟨v, -, hv⟩
  · exact readBody_eq_error hbody hs hexport
  · split at hv
    · cases hv
    · obtain rfl := Except.error.inj hv
      exact .mismatch hs hexport

theorem Operation.rejects_of_answer (h : op.answer r url = .error f) : Rejects op r url f := by
  by_cases hs : Status.isSuccess r.status
  · cases hexport : op.isExport with
    | true =>
      obtain ⟨a, file, ha, -⟩ := answer_of_isExport url hs hexport
      cases ha.symm.trans h
    | false =>
      cases op with
      | exportSessions _ | exportLogs _ => cases hexport
      | plain _ => exact readBody_eq_error h hs hexport
      | _ => exact readRecord_eq_error h hs hexport
  · rw [op.answer_of_failure hs] at h
    obtain rfl := Except.error.inj h
    exact .status hs

theorem refusal?_of_blames (hv : Json.readBytes? r.body = some v) (h : v.Blames code message) :
    r.refusal? = some code := by
  obtain ⟨es, rfl, hcode, hmessage, hnull, hzero, -⟩ := h
  have henvelope : isEnvelope es :=
    isEnvelope_iff.mpr ⟨code, es, rfl, hcode, .inr (Dict.has_of_lookup? hmessage)⟩
  have hfailure : isSuccessCode code = false := by
    rw [← Bool.not_eq_true, isSuccessCode_iff]
    exact not_or.mpr ⟨hnull, hzero⟩
  simp [Response.refusal?, hv, henvelope, hcode, hfailure]

/-- A failure of the gateway is passed on with its own message and code. -/
theorem Operation.answer_of_blames (hs : Status.isSuccess r.status) (hexport : op.isExport = false)
    (hv : Json.readBytes? r.body = some v) (h : v.Blames code message) (url : String) :
    op.answer r url = .error (.refused r.status message code) := by
  obtain ⟨message', ha⟩ := answer_of_refusal url hs (refusal?_of_blames hv h) hexport
  obtain ⟨es, rfl, -, hmessage, -⟩ := h
  cases rejects_of_answer ha with
  | refused _ _ hv' =>
    obtain ⟨⟩ := hv.symm.trans hv'
    rw [ha, hmessage]
    rfl

end Rejects

section Wording

theorem worded_of_status? (h : f.status? = none) : f.Worded := by
  cases f with
  | transport reason => exact ⟨_, by simp, rfl⟩
  | _ => cases h

/-- The words of a refusal are those of the gateway if it has any. -/
theorem worded_refused_iff {status : Int} : (Failure.refused status message code).Worded ↔
    (message.present → ∃ s, message = .str s) := by
  unfold Failure.Worded Failure.message Json.orElse
  by_cases hpresent : message.present
  · simp only [hpresent, if_true, true_imp_iff]
    constructor
    · rintro ⟨s, -, rfl⟩
      exact ⟨s, rfl⟩
    · rintro ⟨s, rfl⟩
      exact ⟨s, bne_iff_ne.mp hpresent, rfl⟩
  · simp [hpresent]

theorem wordless_of_rejects (hscheme : hasScheme request.url) (h : Rejects op r url f)
    (hf : ¬f.Worded) : Wordless op request (.response r) := by
  cases h with
  | status hs => exact absurd (recounts_status r url).exists_message hf
  | notJson hs hexport hv => exact absurd ⟨_, by simp, rfl⟩ hf
  | mismatch hs hexport => exact absurd ⟨_, by simp, rfl⟩ hf
  | @refused es code hs hexport hv hcode hnull hzero =>
    rw [worded_refused_iff, Classical.not_imp, not_exists] at hf
    obtain ⟨hpresent, htext⟩ := hf
    cases hmessage : es.lookup? "message" with
    | none =>
      rw [hmessage] at hpresent
      cases hpresent
    | some message =>
      rw [hmessage] at hpresent htext
      exact .refused hscheme hs hexport hv ⟨es, rfl, hcode, hmessage, hnull, hzero, hpresent⟩ htext

/-- The wordless replies are those that make an operation fail with another message than a text. -/
theorem Operation.settle_wordless_iff :
    (∃ f, op.settle request reply = .error (.failed f) ∧ ¬f.Worded) ↔
      Wordless op request reply := by
  constructor
  · rintro ⟨f, hf, hword⟩
    cases reply with
    | lost reason =>
      obtain rfl := Fault.failed.inj (Except.error.inj hf)
      exact absurd (worded_of_status? rfl) hword
    | response r =>
      by_cases htakes : request.Takes r
      · rw [op.settle_of_takes htakes] at hf
        obtain ⟨_, hanswer, ⟨⟩⟩ := mapError_eq_error.mp hf
        exact wordless_of_rejects htakes.1 (rejects_of_answer hanswer) hword
      · obtain ⟨e, he, hstatus⟩ := receive_of_not_takes htakes
        simp only [settle, he] at hf
        exact absurd (worded_of_status? (hstatus f (Except.error.inj hf))) hword
  · rintro ⟨hscheme, hs, hexport, hv, h, htext⟩
    have htakes := (Request.takes_iff_of_success hs).mpr hscheme
    refine ⟨_, by rw [op.settle_of_takes htakes, answer_of_blames hs hexport hv h]; rfl, ?_⟩
    rw [worded_refused_iff]
    obtain ⟨es, -, -, -, -, -, hpresent⟩ := h
    intro hword
    obtain ⟨s, hmessage⟩ := hword hpresent
    exact htext s hmessage

end Wording

section SameFailure

theorem errorDetail_of_blames (hv : Json.readBytes? r.body = some v) (h : v.Blames code message)
    (url : String) : errorDetail r url = (message, code) := by
  obtain ⟨es, rfl, hcode, hmessage, -, -, hpresent⟩ := h
  rw [errorDetail_eq]
  simp [Response.entry?, hv, Json.entries?, hcode, hmessage, Json.orElse, hpresent]

/-- With a status of success the message is the value itself, with another status its display. -/
theorem message_eq_display_iff : message = .str message.display ↔ ∃ s, message = .str s := by
  constructor
  · intro h
    exact ⟨_, h⟩
  · rintro ⟨s, rfl⟩
    rfl

namespace Client

theorem failed_of_blames_iff (sent : (c.perform op (.response r)).request = some request)
    (hs : Status.isSuccess r.status) (hv : Json.readBytes? r.body = some v)
    (h : v.Blames code message) : (c.perform op (.response r)).outcome = .error (.failed f) ↔
      hasScheme request.url ∧ op.isExport = false ∧ f = .refused r.status message code := by
  rw [outcome_of_sent sent]
  by_cases hscheme : hasScheme request.url
  · rw [op.settle_of_takes ((Request.takes_iff_of_success hs).mpr hscheme)]
    cases hexport : op.isExport with
    | true =>
      obtain ⟨a, file, ha, -⟩ := Operation.answer_of_isExport request.url.text hs hexport
      simp [ha, Except.mapError]
    | false =>
      simp [Operation.answer_of_blames hs hexport hv h, Except.mapError, hscheme, eq_comm]
  · simp [Operation.settle, receive_of_no_scheme hscheme, hscheme]

/-- What is lost on the way has no code. -/
theorem failed_of_status_iff (sent : (c.perform op (.response r)).request = some request)
    (hs : ¬Status.isSuccess r.status) (hv : Json.readBytes? r.body = some v)
    (h : v.Blames code message) :
    ((c.perform op (.response r)).outcome = .error (.failed f) ∧ f.code = code) ↔
      request.Takes r ∧ f = .status r.status message code := by
  rw [outcome_of_sent sent]
  by_cases htakes : request.Takes r
  · rw [op.settle_of_takes htakes, op.answer_of_failure hs, errorDetail_of_blames hv h]
    constructor
    · rintro ⟨hf, -⟩
      exact ⟨htakes, (Fault.failed.inj (Except.error.inj hf)).symm⟩
    · rintro ⟨-, rfl⟩
      exact ⟨rfl, rfl⟩
  · obtain ⟨e, he, hstatus⟩ := receive_of_not_takes htakes
    obtain ⟨es, -, -, -, hnull, -⟩ := h
    simp only [Operation.settle, he, htakes, false_and, iff_false]
    rintro ⟨hf, hcode⟩
    have hnone : f.status? = none := hstatus f (Except.error.inj hf)
    cases f with
    | transport reason => exact hnull hcode.symm
    | _ => cases hnone

/-- A failure that the gateway reports is the same with a status of success and with another one
just if its message is a text, except that exports do not look for one in a file. -/
theorem sameFailure_iff (sent : (c.perform op (.response r)).request = some request)
    (hs : Status.isSuccess r.status) (hs' : ¬Status.isSuccess r'.status)
    (hv : Json.readBytes? r.body = some v) (hv' : Json.readBytes? r'.body = some v)
    (h : v.Blames code message) :
    SameFailure (c.perform op (.response r)).outcome (c.perform op (.response r')).outcome ↔
      request.Takes r' ∧ op.isExport = false ∧ ∃ s, message = .str s := by
  have sent' : (c.perform op (.response r')).request = some request :=
    (c.request_perform op _ _).trans sent
  have hmessage : (Failure.refused r.status message code).message = message := by
    obtain ⟨es, -, -, -, -, -, hpresent⟩ := h
    simp [Failure.message, Json.orElse, hpresent]
  rw [← message_eq_display_iff]
  constructor
  · rintro ⟨f, f', hf, hf', hsame, hcode⟩
    obtain ⟨-, hexport, rfl⟩ := (failed_of_blames_iff sent hs hv h).mp hf
    obtain ⟨htakes, rfl⟩ := (failed_of_status_iff sent' hs' hv' h).mp ⟨hf', hcode.symm⟩
    exact ⟨htakes, hexport, hmessage.symm.trans hsame⟩
  · rintro ⟨htakes, hexport, htext⟩
    have hf := (failed_of_blames_iff sent hs hv h).mpr ⟨htakes.1, hexport, rfl⟩
    have hf' := (failed_of_status_iff sent' hs' hv' h).mpr ⟨htakes, rfl⟩
    exact ⟨_, _, hf, hf'.1, hmessage.trans htext, rfl⟩

end Client

end SameFailure

theorem readBytes?_failureResponse : Json.readBytes? failureResponse.body =
    some (.obj [("code", .int 500), ("message", .str "boom"), ("data", .null)]) := by
  have hd : ((Json.charsetOf failureResponse.body).decode failureResponse.body).toOption =
      some failureText.toList := by decide +kernel
  rw [Json.readBytes?_of_decode hd]
  rfl

/-- The body in which a gateway lists what went wrong. -/
def listedText : String := "\x7b\"code\":500,\"message\":[\"boom\"]\x7d"

end Api
end ChatAudit
