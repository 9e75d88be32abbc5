import ChatAudit.Proofs.Api.Refusal
import ChatAudit.Proofs.Payload.Reading

/-! Answers in an envelope and answers without one. -/
namespace ChatAudit

/-- Zero as a double, whatever its sign and exponent. -/
theorem Binary64.toInt?_eq_zero_iff {x : Binary64} :
    x.toInt? = some 0 ↔ ∃ negative e, x = .finite negative 0 e := by
  constructor
  · intro h
    cases x with
    | nan => cases h
    | infinite negative => cases h
    | finite negative m e =>
      simp only [toInt?] at h
      obtain ⟨hmod, hdiv⟩ : (ratio m e).1 % (ratio m e).2 = 0 ∧
          (ratio m e).1 / (ratio m e).2 = 0 := by
        split_ifs at h with hmod
        · exact ⟨hmod, Int.natCast_eq_zero.mp (Int.neg_eq_zero.mp (Option.some.inj h))⟩
        · exact ⟨hmod, Int.natCast_eq_zero.mp (Option.some.inj h)⟩
      have hsize : m * 2 ^ e.toNat = 0 := by
        have hsplit := Nat.div_add_mod (ratio m e).1 (ratio m e).2
        rw [hmod, hdiv, Nat.mul_zero] at hsplit
        exact hsplit.symm
      obtain rfl := (Nat.mul_eq_zero.mp hsize).resolve_right (Nat.ne_of_gt (Nat.two_pow_pos _))
      exact ⟨negative, e, rfl⟩
  · rintro ⟨negative, e, rfl⟩
    simp [toInt?, ratio]

namespace Json

/-- The values that are equal to zero. -/
inductive Zero : Json → Prop
  | bool : Zero (.bool false)
  | int : Zero (.int 0)
  | float (negative : Bool) (e : Int) : Zero (.float (.finite negative 0 e))

/-- Whether the value is an envelope with `code` for its code. -/
def Wraps (v code : Json) : Prop :=
  ∃ es : Dict Json, v = .obj es ∧ es.lookup? "code" = some code ∧
    (es.has "data" ∨ es.has "message")

/-- Whether the value reports no failure: if it is an envelope, its code is null or zero. -/
def Succeeds (v : Json) : Prop := ∀ code, v.Wraps code → code = .null ∨ code.Zero

/-- What a value tells: itself if it is no envelope, else the data of the envelope. -/
inductive Tells : Json → Json → Prop
  | bare {v : Json} (h : ∀ code, ¬v.Wraps code) : Tells v v
  | data {es : Dict Json} {code v : Json} (h : Wraps (.obj es) code)
      (hdata : es.lookup? "data" = some v) : Tells (.obj es) v
  | nothing {es : Dict Json} {code : Json} (h : Wraps (.obj es) code)
      (hdata : es.lookup? "data" = none) : Tells (.obj es) .null

variable {v w code code' : Json} {es : Dict Json}

theorem equal_zero_iff : code.equal (.int 0) ↔ code.Zero := by
  constructor
  · intro h
    cases code with
    | bool b =>
      cases b with
      | false => exact .bool
      | true => cases h
    | int n =>
      have hn : n = 0 := by simpa [equal, equalNumbers, toInt?] using h
      exact hn ▸ .int
    | float x =>
      have hx : x.toInt? = some 0 := by simpa [equal, equalNumbers, toInt?] using h
      obtain ⟨negative, e, rfl⟩ := Binary64.toInt?_eq_zero_iff.mp hx
      exact .float negative e
    | _ => simp [equal, equalNumbers, toInt?] at h
  · intro h
    cases h with
    | bool => rfl
    | int => rfl
    | float negative e =>
      have hx := Binary64.toInt?_eq_zero_iff.mpr ⟨negative, e, rfl⟩
      simp [equal, equalNumbers, toInt?, hx]

theorem Wraps.unique (h : v.Wraps code) (h' : v.Wraps code') : code = code' := by
  obtain ⟨es, rfl, hcode, -⟩ := h
  obtain ⟨_, ⟨⟩, hcode', -⟩ := h'
  exact Option.some.inj (hcode.symm.trans hcode')

theorem not_succeeds_iff : ¬v.Succeeds ↔ ∃ code, v.Wraps code ∧ code ≠ .null ∧ ¬code.Zero := by
  simp [Succeeds]

theorem succeeds_of_bare (h : ∀ code, ¬v.Wraps code) : v.Succeeds := by
  intro code hwraps
  exact absurd hwraps (h code)

theorem Wraps.succeeds_iff (h : v.Wraps code) : v.Succeeds ↔ code = .null ∨ code.Zero := by
  constructor
  · intro hv
    exact hv code h
  · intro hcode code' h'
    rw [← h.unique h']
    exact hcode

theorem exists_tells (v : Json) : ∃ w, v.Tells w := by
  by_cases h : ∃ code, v.Wraps code
  · obtain ⟨code, hwraps⟩ := h
    obtain ⟨es, rfl, -⟩ := id hwraps
    cases hdata : Dict.lookup? "data" es with
    | none => exact ⟨.null, .nothing hwraps hdata⟩
    | some w => exact ⟨w, .data hwraps hdata⟩
  · exact ⟨v, .bare (not_exists.mp h)⟩

end Json

namespace Api
open ChatAudit.Record

theorem isSuccessCode_iff {code : Json} : isSuccessCode code ↔ code = .null ∨ code.Zero := by
  rw [isSuccessCode, Bool.or_eq_true, Json.isNull_iff, Json.equal_zero_iff]

theorem isEnvelope_iff {es : Dict Json} : isEnvelope es ↔ ∃ code, Json.Wraps (.obj es) code := by
  rw [isEnvelope, Bool.and_eq_true, Bool.or_eq_true, Dict.has, Option.isSome_iff_exists]
  constructor
  · rintro ⟨⟨code, hcode⟩, hrest⟩
    exact ⟨code, es, rfl, hcode, hrest⟩
  · rintro ⟨code, _, ⟨⟩, hcode, hrest⟩
    exact ⟨⟨code, hcode⟩, hrest⟩

theorem unwrap_of_wraps {v code : Json} (status : Int) (h : v.Wraps code) (hnull : code ≠ .null)
    (hzero : ¬code.Zero) : ∃ message, unwrap status v = .error (.refused status message code) := by
  obtain ⟨es, rfl, hcode, -⟩ := id h
  have henvelope := isEnvelope_iff.mpr ⟨code, h⟩
  have hfailure : isSuccessCode code = false := by
    rw [← Bool.not_eq_true, isSuccessCode_iff]
    exact not_or.mpr ⟨hnull, hzero⟩
  refine ⟨(es.lookup? "message").getD .null, ?_⟩
  simp [unwrap, henvelope, hcode, hfailure]

theorem unwrap_of_tells {v w : Json} (status : Int) (h : v.Tells w) (hv : v.Succeeds) :
    unwrap status v = .ok w := by
  have hdata {es : Dict Json} {code : Json} (hwraps : Json.Wraps (.obj es) code)
      (hv : Json.Succeeds (.obj es)) :
      unwrap status (.obj es) = .ok ((es.lookup? "data").getD .null) := by
    have henvelope := isEnvelope_iff.mpr ⟨code, hwraps⟩
    have hsuccess := isSuccessCode_iff.mpr (hv code hwraps)
    obtain ⟨_, ⟨⟩, hcode, -⟩ := hwraps
    simp [unwrap, henvelope, hcode, hsuccess]
  cases h with
  | bare hbare =>
    cases v with
    | obj es =>
      have henvelope : isEnvelope es = false := by
        rw [← Bool.not_eq_true, isEnvelope_iff]
        exact not_exists.mpr hbare
      simp [unwrap, henvelope]
    | _ => rfl
  | data hwraps hlookup => rw [hdata hwraps hv, hlookup, Option.getD_some]
  | nothing hwraps hlookup => rw [hdata hwraps hv, hlookup, Option.getD_none]

/-- What an answer must be. -/
structure Model (α : Type) where
  title : String
  /-- What a null stands for. -/
  empty : Json
  read : Reader α

namespace Model
variable {α : Type}

def ofRecord (title : String) (read : Dict Json → Checked α) : Model α :=
  ⟨title, .obj [], record read⟩

def ofList (title : String) (read : Reader α) : Model (List α) := ⟨title, .arr [], list read⟩

/-- What becomes of an answer that came with a status. -/
def check (m : Model α) (status : Int) (v : Json) : Except Failure α :=
  match m.read (if v.isNull then m.empty else v) with
  | .accepted a => .ok a
  | .rejected issues => .error (.mismatch status m.title issues)

theorem code_of_check {m : Model α} {status : Int} {v : Json} {f : Failure}
    (h : m.check status v = .error f) : f.code = .null := by
  unfold check at h
  split at h
  · cases h
  · obtain rfl := Except.error.inj h
    rfl

end Model

/-- The model of the response to an operation. Files and plain requests have none. -/
def Operation.model? : (op : Operation) → Option (Model op.Answer)
  | listSessions _ => some (.ofRecord "SecurityChatSessionList" (Page.read Session.read))
  | deleteSession .. | deleteSessions _ | deleteLogs _ =>
    some (.ofRecord "DeleteResult" Deletion.read)
  | listMessages _ | listLogs _ => some (.ofRecord "SecurityChatLogList" (Page.read Log.read))
  | statistics _ => some (.ofRecord "SecurityChatStats" Statistics.read)
  | summarize _ | converse _ => some (.ofRecord "SecurityChatSummary" Summary.read)
  | listApiKeys => some (.ofList "list[SecurityApiKey]" (record ApiKey.read))
  | exportSessions _ | exportLogs _ | plain _ => none

variable {c : Client} {op : Operation} {m : Model op.Answer} {r : Response} {v w code : Json}
  {request : Request}

theorem Operation.answer_of_model (h : op.model? = some m) (r : Response) (url : String) :
    op.answer r url = readBody r url >>= m.check r.status := by
  cases op with
  | exportSessions _ | exportLogs _ | plain _ => cases h
  | _ =>
    obtain rfl := Option.some.inj h
    rfl

theorem readBody_of_success (url : String) (hs : Status.isSuccess r.status)
    (hv : Json.readBytes? r.body = some v) : readBody r url = unwrap r.status v := by
  simp only [readBody, checkStatus_of_success url hs, hv, bind, Except.bind]

namespace Client

section Success
variable (hm : op.model? = some m) (sent : (c.perform op (.response r)).request = some request)
  (hscheme : hasScheme request.url) (hs : Status.isSuccess r.status)
  (hv : Json.readBytes? r.body = some v)
include hm sent hscheme hs hv

/-- With a status of success only the body counts. -/
theorem outcome_of_success : (c.perform op (.response r)).outcome =
    (unwrap r.status v >>= m.check r.status).mapError .failed := by
  have htakes : request.Takes r := (Request.takes_iff_of_success hs).mpr hscheme
  rw [outcome_of_sent sent, op.settle_of_takes htakes, op.answer_of_model hm,
    readBody_of_success _ hs hv]

theorem outcome_of_tells (hw : v.Tells w) (hsuccess : v.Succeeds) :
    (c.perform op (.response r)).outcome = (m.check r.status w).mapError .failed := by
  have hend := outcome_of_success hm sent hscheme hs hv
  rw [unwrap_of_tells r.status hw hsuccess] at hend
  exact hend

theorem outcome_of_wraps (hcode : v.Wraps code) (hnull : code ≠ .null) (hzero : ¬code.Zero) :
    ∃ message, (c.perform op (.response r)).outcome =
      .error (.failed (.refused r.status message code)) := by
  obtain ⟨message, hunwrap⟩ := unwrap_of_wraps r.status hcode hnull hzero
  have hend := outcome_of_success hm sent hscheme hs hv
  rw [hunwrap] at hend
  exact ⟨message, hend⟩

theorem refused_code_iff (hnull : code ≠ .null) :
    (∃ f, (c.perform op (.response r)).outcome = .error (.failed f) ∧ f.code = code) ↔
      v.Wraps code ∧ ¬code.Zero := by
  constructor
  · rintro ⟨f, hf, rfl⟩
    by_cases hsuccess : v.Succeeds
    · -- What the model turns down has no code.
      obtain ⟨w, hw⟩ := v.exists_tells
      rw [outcome_of_tells hm sent hscheme hs hv hw hsuccess] at hf
      obtain ⟨_, hcheck, ⟨⟩⟩ := mapError_eq_error.mp hf
      exact absurd (Model.code_of_check hcheck) hnull
    · obtain ⟨code, hwraps, hnull', hzero⟩ := Json.not_succeeds_iff.mp hsuccess
      obtain ⟨message, hend⟩ := outcome_of_wraps hm sent hscheme hs hv hwraps hnull' hzero
      obtain rfl := Fault.failed.inj (Except.error.inj (hend.symm.trans hf))
      exact ⟨hwraps, hzero⟩
  · rintro ⟨hwraps, hzero⟩
    obtain ⟨message, hend⟩ := outcome_of_wraps hm sent hscheme hs hv hwraps hnull hzero
    exact ⟨_, hend, rfl⟩

end Success

/-- An answer is the same in an envelope and without one. A successful response is refused exactly
if it is an envelope with a code that is neither null nor zero, and with this code; in all other
cases the model decides on what the response tells. -/
theorem wrapped_as_bare (hm : op.model? = some m)
    (sent : (c.perform op (.response r)).request = some request) (hscheme : hasScheme request.url)
    (hs : Status.isSuccess r.status) (hv : Json.readBytes? r.body = some v) :
    (∀ code, code ≠ .null →
      ((∃ f, (c.perform op (.response r)).outcome = .error (.failed f) ∧ f.code = code) ↔
        v.Wraps code ∧ ¬code.Zero)) ∧
    (v.Succeeds → ∃ w, v.Tells w ∧
      (c.perform op (.response r)).outcome = (m.check r.status w).mapError .failed) ∧
    ((∀ code, ¬v.Wraps code) → ∀ (r' : Response) (es : Dict Json), r'.status = r.status →
      Json.readBytes? r'.body = some (.obj es) → es.lookup? "code" = some (.int 0) →
      es.lookup? "data" = some v →
      (c.perform op (.response r')).outcome = (c.perform op (.response r)).outcome) := by
  refine ⟨?_, ?_, ?_⟩
  · intro code hnull
    exact refused_code_iff hm sent hscheme hs hv hnull
  · intro hsuccess
    obtain ⟨w, hw⟩ := v.exists_tells
    exact ⟨w, hw, outcome_of_tells hm sent hscheme hs hv hw hsuccess⟩
  · intro hbare r' es hstatus hv' hcode hdata
    have hwraps : Json.Wraps (.obj es) (.int 0) :=
      ⟨es, rfl, hcode, .inl (Dict.has_of_lookup? hdata)⟩
    have hsuccess : Json.Succeeds (.obj es) := hwraps.succeeds_iff.mpr (.inr .int)
    have sent' : (c.perform op (.response r')).request = some request := by
      rw [← sent]
      exact c.request_perform op _ _
    have hs' : Status.isSuccess r'.status := hstatus ▸ hs
    rw [outcome_of_tells hm sent hscheme hs hv (.bare hbare) (Json.succeeds_of_bare hbare),
      outcome_of_tells hm sent' hscheme hs' hv' (.data hwraps hdata) hsuccess, hstatus]

end Client

/-- A response that is the list of no keys. -/
def noKeys : Response := ⟨200, [], Charset.encodeUtf8 "[]".toList⟩

theorem readBytes?_noKeys : Json.readBytes? noKeys.body = some (.arr []) := by
  have hd : ((Json.charsetOf noKeys.body).decode noKeys.body).toOption = some "[]".toList := by
    decide +kernel
  rw [Json.readBytes?_of_decode hd]
  rfl

/-- The same list in an envelope. -/
def noKeysText : String := "\x7b\"code\":0,\"message\":\"ok\",\"data\":[]\x7d"

theorem gateway_wrapped_as_bare :
    (gateway.perform .listApiKeys (.response noKeys)).outcome = .ok [] ∧
      (gateway.perform .listApiKeys
        (.response ⟨200, [], Charset.encodeUtf8 noKeysText.toList⟩)).outcome = .ok [] := by
  have hd : ((Json.charsetOf (Charset.encodeUtf8 noKeysText.toList)).decode
      (Charset.encodeUtf8 noKeysText.toList)).toOption = some noKeysText.toList := by
    decide +kernel
  have hbare : ∀ code, ¬Json.Wraps (.arr []) code := by
    rintro code ⟨es, ⟨⟩, -⟩
  have sent := gateway.request_perform .listApiKeys (.response noKeys) (.lost "")
  have hm : Operation.model? .listApiKeys =
      some (.ofList "list[SecurityApiKey]" (record ApiKey.read)) := rfl
  obtain ⟨-, htells, hsame⟩ := Client.wrapped_as_bare hm sent rfl rfl readBytes?_noKeys
  obtain ⟨w, hw, hend⟩ := htells (Json.succeeds_of_bare hbare)
  have hok : (gateway.perform .listApiKeys (.response noKeys)).outcome = .ok [] := by
    cases hw
    exact hend
  constructor
  · exact hok
  · rw [hsame hbare ⟨200, [], Charset.encodeUtf8 noKeysText.toList⟩
      [("code", .int 0), ("message", .str "ok"), ("data", .arr [])] rfl ?_ rfl rfl]
    · exact hok
    · exact Json.readBytes?_of_decode hd

/-- A client whose base address has no scheme. -/
def schemeless : Client := .create "gateway.test/api/v1"

/-- What comes from an address without a scheme is never looked at. -/
theorem schemeless_not_as_bare : ∃ m, Operation.model? .listApiKeys = some m ∧
    (schemeless.perform .listApiKeys (.response noKeys)).request.isSome ∧
    Status.isSuccess noKeys.status ∧ Json.readBytes? noKeys.body = some (.arr []) ∧
    (∀ code, ¬Json.Wraps (.arr []) code) ∧
    ∀ w, Json.Tells (.arr []) w →
      (schemeless.perform .listApiKeys (.response noKeys)).outcome ≠
        (m.check noKeys.status w).mapError .failed := by
  have hend : (schemeless.perform .listApiKeys (.response noKeys)).outcome =
      .error (.scheme "gateway.test/api/v1/admin/security/api-keys") := rfl
  refine ⟨_, rfl, rfl, rfl, readBytes?_noKeys, ?_, ?_⟩
  · rintro code ⟨es, ⟨⟩, -⟩
  · intro w hw
    rw [hend]
    intro h
    obtain ⟨_, -, ⟨⟩⟩ := mapError_eq_error.mp h.symm

end Api
end ChatAudit
