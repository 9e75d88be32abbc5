import ChatAudit.Api.Exchange
import ChatAudit.Proofs.Api.Answer

/-! How an operation ends once its request is on the way. -/
namespace ChatAudit.Api

/-- The status that came back. -/
def Reply.status? : Reply → Option Int
  | .lost _ => none
  | .response r => some r.status

namespace Operation

/-- How the operation ends with a reply to its request. -/
def settle (op : Operation) (request : Request) (reply : Reply) : Except Fault op.Answer :=
  match receive request reply with
  | .error f => .error f
  | .ok r => (op.answer r request.url.text).mapError .failed

/-- An end that callers can rely on: an answer that the model of the response lets through, or a
failure with the status that came back. -/
def Settled (op : Operation) (reply : Reply) : Except Fault op.Answer → Prop
  | .ok a => reply.status?.isSome ∧ op.Accepts a
  | .error (.failed f) => f.status? = reply.status?
  | .error _ => False

end Operation

/-- Whether a location is an address, if need be with the host of `url`. -/
def Leads (url : Url) (location : String) : Prop :=
  ∃ target, Url.read location = .ok target ∧
    (target.scheme ≠ [] → target.host = [] →
      ∃ whole, Url.withQuery { target with host := url.host } target.query = .ok whole)

/-- Whether a response can be taken in: the address has a scheme, and a redirect leads on. -/
def Request.Takes (request : Request) (r : Response) : Prop :=
  hasScheme request.url ∧
    (Status.isRedirect r.status → ∀ l, r.header? "location" = some l → Leads request.url l)

section Receive
variable {request : Request} {r : Response}

theorem checkLocation_eq_ok_iff {url : Url} {l : String} :
    checkLocation url l = .ok () ↔ Leads url l := by
  unfold checkLocation Leads
  cases hl : Url.read l with
  | error f => simp
  | ok target =>
    by_cases hs : target.scheme = []
    · simp [hs]
    · by_cases hh : target.host = []
      · cases hw : Url.withQuery { target with host := url.host } target.query <;>
          simp [hs, hh, hw]
      · simp [hs, hh]

/-- A location that cannot be read counts as a loss. -/
theorem status?_of_checkLocation {url : Url} {l : String} {f : Failure}
    (h : checkLocation url l = .error (.failed f)) : f.status? = none := by
  unfold checkLocation at h
  split at h
  · obtain rfl := Fault.failed.inj (Except.error.inj h)
    rfl
  · split_ifs at h
    split at h <;> cases h

theorem receive_of_takes (h : request.Takes r) : receive request (.response r) = .ok r := by
  obtain ⟨hs, hl⟩ := h
  by_cases hr : Status.isRedirect r.status
  · cases hloc : r.header? "location" with
    | none => simp [receive, hs, hr, hloc, pure, Except.pure]
    | some l =>
      have hc := checkLocation_eq_ok_iff.mpr (hl hr l hloc)
      simp [receive, hs, hr, hloc, hc, pure, Except.pure, bind, Except.bind]
  · simp [receive, hs, hr, pure, Except.pure]

theorem receive_of_no_scheme (h : ¬hasScheme request.url) :
    receive request (.response r) = .error (.scheme request.url.text) := by
  simp [receive, h, bind, Except.bind, throw, throwThe, MonadExceptOf.throw]

theorem receive_of_not_takes (h : ¬request.Takes r) :
    ∃ e, receive request (.response r) = .error e ∧ ∀ f, e = .failed f → f.status? = none := by
  by_cases hs : hasScheme request.url
  · obtain ⟨hr, l, hloc, hl⟩ : Status.isRedirect r.status ∧
        ∃ l, r.header? "location" = some l ∧ ¬Leads request.url l := by
      simpa [Request.Takes, hs] using h
    cases hc : checkLocation request.url l with
    | ok _ => exact absurd (checkLocation_eq_ok_iff.mp hc) hl
    | error e =>
      refine ⟨e, by simp [receive, hs, hr, hloc, hc, bind, Except.bind], ?_⟩
      rintro f rfl
      exact status?_of_checkLocation hc
  · exact ⟨_, receive_of_no_scheme hs, fun f hf => by cases hf⟩

theorem Operation.settle_of_takes (op : Operation) (h : request.Takes r) :
    op.settle request (.response r) = (op.answer r request.url.text).mapError .failed := by
  simp only [settle, receive_of_takes h]

end Receive

variable {c : Client} {op : Operation} {reply : Reply} {request : Request}

namespace Client

/-- For a call and an address that can be built, a request goes out and the reply to it decides. -/
theorem perform_of_request {call : Call} (hcall : op.call = .ok call)
    (hreq : c.request call = .ok request) :
    (c.perform op reply).request = some request ∧
      (c.perform op reply).outcome = op.settle request reply := by
  unfold perform Operation.settle
  simp only [hcall, hreq]
  cases receive request reply with
  | error e => exact ⟨rfl, rfl⟩
  | ok r =>
    dsimp only
    cases op.answer r request.url.text <;> exact ⟨rfl, rfl⟩

theorem sent_iff : (c.perform op reply).request = some request ↔
    ∃ call, op.call = .ok call ∧ c.request call = .ok request := by
  constructor
  · intro sent
    cases hcall : op.call with
    | error e => simp [perform, hcall] at sent
    | ok call =>
      cases hreq : c.request call with
      | error e => simp [perform, hcall, hreq] at sent
      | ok q =>
        rw [(perform_of_request hcall hreq).1] at sent
        exact ⟨call, rfl, hreq.trans (congrArg _ (Option.some.inj sent))⟩
  · rintro ⟨call, hcall, hreq⟩
    exact (perform_of_request hcall hreq).1

/-- What is sent does not depend on the reply. -/
theorem request_perform (c : Client) (op : Operation) (reply reply' : Reply) :
    (c.perform op reply).request = (c.perform op reply').request := by
  ext request
  exact sent_iff.trans sent_iff.symm

theorem outcome_of_sent (sent : (c.perform op reply).request = some request) :
    (c.perform op reply).outcome = op.settle request reply := by
  obtain ⟨call, hcall, hreq⟩ := sent_iff.mp sent
  exact (perform_of_request hcall hreq).2

/-- What returns a value was sent. -/
theorem exists_request_of_ok {a : op.Answer} (h : (c.perform op reply).outcome = .ok a) :
    ∃ request, (c.perform op reply).request = some request := by
  cases hcall : op.call with
  | error e => simp [perform, hcall] at h
  | ok call =>
    cases hreq : c.request call with
    | error e => simp [perform, hcall, hreq] at h
    | ok request => exact ⟨request, (perform_of_request hcall hreq).1⟩

/-- A value is only ever read from the response. -/
theorem answer_of_outcome {r : Response} {a : op.Answer}
    (h : (c.perform op (.response r)).outcome = .ok a) : ∃ url, op.answer r url = .ok a := by
  cases hcall : op.call with
  | error e => simp [perform, hcall] at h
  | ok call =>
    cases hreq : c.request call with
    | error e => simp [perform, hcall, hreq] at h
    | ok request =>
      rw [(perform_of_request hcall hreq).2] at h
      by_cases ht : request.Takes r
      · rw [op.settle_of_takes ht] at h
        exact ⟨_, mapError_eq_ok.mp h⟩
      · obtain ⟨e, he, -⟩ := receive_of_not_takes ht
        simp [Operation.settle, he] at h

end Client

/-- A client of a gateway that needs no token. -/
def gateway : Client := .create "http://gateway.test/api/v1"

/-- A redirect to an address that has a scheme but no host. -/
def hostless : Reply := .response ⟨302, [("Location", "about:blank")], []⟩

end ChatAudit.Api
