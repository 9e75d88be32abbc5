import ChatAudit.Proofs.Api.Resource

/-! Which faults escape from operations that are put together well. -/
namespace ChatAudit.Api
open Text

section Scheme
variable {u v base reference : Url}

/-- Whether an address begins as those of web pages do. -/
def WebScheme (u : Url) : Prop := u.scheme ∈ ["http".toList, "https".toList]

theorem hasScheme_of_web (h : WebScheme u) : hasScheme u := by
  simp only [WebScheme, List.mem_cons, List.not_mem_nil, or_false] at h
  rcases h with h | h <;> simp [hasScheme, Url.chars, h]

theorem web_of_withParts {path : List Char} {query : Option (List Char)} (hu : WebScheme u)
    (h : u.withParts path query = .ok v) : WebScheme v := by
  obtain ⟨-, hparts⟩ := Url.withParts_eq_ok_iff.mp h
  have hlower : ∀ scheme ∈ ["http".toList, "https".toList], scheme.map Char.toLower = scheme := by
    decide
  rw [WebScheme, (Url.ofParts_spec hparts).1, hlower _ hu]
  exact hu

theorem web_of_withTarget {target : List Char} (hu : WebScheme u)
    (h : u.withTarget target = .ok v) : WebScheme v := web_of_withParts hu h

theorem web_of_asBase (hu : WebScheme u) (h : u.asBase = .ok base) : WebScheme base := by
  unfold Url.asBase at h
  split_ifs at h
  · obtain rfl := Except.ok.inj h
    exact hu
  · exact web_of_withTarget hu h

/-- What begins with a slash has no scheme of its own. -/
theorem scheme_of_read {s : String} {cs : List Char} (hs : s.toList = '/' :: cs)
    (h : Url.read s = .ok reference) : reference.scheme = [] := by
  unfold Url.read at h
  dsimp only at h
  split_ifs at h
  split at h
  · cases h
  · have hcut : (cutAt '#' s.toList).1 = '/' :: (cutAt '#' cs).1 := by
      rw [hs]
      rfl
    rw [hcut, Url.splitScheme_of_slash] at h
    exact (Url.ofParts_spec h).1

theorem web_of_urlOf {call : Call} {cs : List Char} (hbase : WebScheme base)
    (hcall : call.path.toList = '/' :: cs) (h : Client.urlOf base call = .ok v) : WebScheme v := by
  obtain ⟨reference, hread, h⟩ := bind_eq_ok.mp h
  have hrelative : reference.isAbsolute = false := by
    simp [Url.isAbsolute, scheme_of_read hcall hread]
  obtain ⟨url, hurl, h⟩ := bind_eq_ok.mp h
  rw [Url.resolve, hrelative] at hurl
  have hweb := web_of_withTarget hbase hurl
  cases hparams : call.params with
  | none =>
    rw [hparams] at h
    obtain rfl := Except.ok.inj h
    exact hweb
  | some params =>
    rw [hparams] at h
    exact web_of_withParts hweb h

end Scheme

/-- Whether a client has an address on the web, and a token that can be sent if it has one. -/
structure Client.WellFormed (c : Client) : Prop where
  address : ∃ u base, Url.read c.baseUrl = .ok u ∧ u.asBase = .ok base ∧ WebScheme u
  token : ∃ bearer, c.bearer = .ok bearer

/-- Whether all that an operation sends can be put together but for its address. -/
def Operation.Complete (op : Operation) : Prop :=
  ∃ call body, op.call = .ok call ∧ call.body.mapM Client.bodyText = .ok body

theorem Operation.complete_of_posts {op : Operation} {path : String} {wire : Dict Json}
    (h : op.Posts path wire) : op.Complete := by
  refine ⟨_, some (Json.obj wire).write, h.1, ?_⟩
  simp only [Option.mapM_some, h.2]
  rfl

/-- Without a body there is only the address to put together. -/
theorem Operation.complete_of_call {op : Operation} {call : Call} (h : op.call = .ok call)
    (hbody : call.body = none) : op.Complete := ⟨call, none, h, by rw [hbody]; rfl⟩

theorem Operation.complete_of_gets {op : Operation} {path : String} {params : Dict Json}
    (h : op.Gets path params) : op.Complete := complete_of_call h rfl

/-- How an operation can end other than with an answer or a failure: its address is none, or a
redirect leads nowhere. -/
inductive Escapes (c : Client) (op : Operation) (reply : Reply) : Fault → Prop
  | unsent {f : Url.Fault} (h : ∀ reply, (c.perform op reply).request = none) :
    Escapes c op reply (.url f)
  | redirect {request : Request} {r : Response} {l : String} {f : Url.Fault}
    (sent : (c.perform op reply).request = some request) (hreply : reply = .response r)
    (hstatus : Status.isRedirect r.status) (hl : r.header? "location" = some l)
    (h : ¬Leads request.url l) : Escapes c op reply (.url f)

section Escape
variable {c : Client} {call : Call} {op : Operation} {reply : Reply} {request : Request} {f : Fault}

theorem Operation.path_of_call (hknown : op.Known) (h : op.call = .ok call) :
    ∃ cs, call.path.toList = '/' :: cs := by
  have hroot (path : String) : ∃ cs, (root ++ path).toList = '/' :: cs := by
    refine ⟨"admin/security".toList ++ path.toList, ?_⟩
    rw [String.toList_append]
    rfl
  cases op with
  | listSessions _ | exportSessions _ | listMessages _ | statistics _ =>
    rw [(get_eq_ok h).2]
    exact hroot _
  | listLogs _ | exportLogs _ =>
    obtain ⟨call', h', h⟩ := bind_eq_ok.mp h
    obtain rfl := Except.ok.inj h
    rw [(get_eq_ok h').2]
    exact hroot _
  | deleteSessions _ | deleteLogs _ | summarize _ | converse _ =>
    rw [(post_eq_ok h).2.1]
    exact hroot _
  | listApiKeys =>
    obtain rfl := Except.ok.inj h
    exact hroot _
  | deleteSession id user key =>
    obtain rfl := Except.ok.inj h
    exact ⟨_, by rw [toList_sessionPath]; rfl⟩
  | plain _ => cases hknown

namespace Client

/-- A well-formed client can only fail to put an address together. -/
theorem request_eq_error (hc : c.WellFormed) {body : Option String}
    (hbody : call.body.mapM bodyText = .ok body) (h : c.request call = .error f) :
    ∃ g, f = .url g := by
  obtain ⟨u, base, hu, hbase, -⟩ := hc.address
  obtain ⟨bearer, hbearer⟩ := hc.token
  unfold request at h
  simp only [hu, hbase, hbearer, hbody, bind, Except.bind, Except.mapError] at h
  cases hurl : urlOf base call with
  | error g =>
    rw [hurl] at h
    exact ⟨g, (Except.error.inj h).symm⟩
  | ok url =>
    rw [hurl] at h
    cases h

theorem hasScheme_of_sent (hc : c.WellFormed) (hknown : op.Known)
    (sent : (c.perform op reply).request = some request) : hasScheme request.url := by
  obtain ⟨call, hcall, hreq⟩ := sent_iff.mp sent
  obtain ⟨cs, hpath⟩ := Operation.path_of_call hknown hcall
  obtain ⟨u, base, hu, hbase, hweb⟩ := hc.address
  obtain ⟨u', base', _, url, _, hu', hbase', -, hurl, -, rfl⟩ := request_eq_ok_iff.mp hreq
  obtain rfl := Except.ok.inj (hu.symm.trans hu')
  obtain rfl := Except.ok.inj (hbase.symm.trans hbase')
  exact hasScheme_of_web (web_of_urlOf (web_of_asBase hweb hbase) hpath hurl)

/-- A redirect is refused for its location alone. -/
theorem escapes_of_redirect {r : Response}
    (sent : (c.perform op (.response r)).request = some request) (hscheme : hasScheme request.url)
    (ht : ¬request.Takes r) (h : op.settle request (.response r) = .error f)
    (hf : ∀ failure, f ≠ .failed failure) : Escapes c op (.response r) f := by
  obtain ⟨hstatus, l, hl, hleads⟩ : Status.isRedirect r.status ∧
      ∃ l, r.header? "location" = some l ∧ ¬Leads request.url l := by
    simpa [Request.Takes, hscheme] using ht
  -- the address sent to has a scheme, so nothing but the location is left to fail
  have hreceive : receive request (.response r) = (checkLocation request.url l).map fun _ => r := by
    simp only [receive, hscheme, hstatus, hl]
    cases checkLocation request.url l <;> rfl
  obtain ⟨e, he⟩ : ∃ e, checkLocation request.url l = .error e := by
    cases hcheck : checkLocation request.url l with
    | ok _ => exact absurd (checkLocation_eq_ok_iff.mp hcheck) hleads
    | error e => exact ⟨e, rfl⟩
  rw [Operation.settle, hreceive, he] at h
  obtain rfl := Except.error.inj h
  have hurl : ∃ g, e = .url g := by
    unfold checkLocation at he
    split at he
    · exact absurd (Except.error.inj he).symm (hf _)
    · split_ifs at he
      split at he
      · cases he
      · exact ⟨_, (Except.error.inj he).symm⟩
  obtain ⟨g, rfl⟩ := hurl
  exact .redirect sent rfl hstatus hl hleads

theorem escapes_of_outcome (hc : c.WellFormed) (hknown : op.Known) (hop : op.Complete)
    (h : (c.perform op reply).outcome = .error f) (hf : ∀ failure, f ≠ .failed failure) :
    Escapes c op reply f := by
  obtain ⟨call, body, hcall, hbody⟩ := hop
  cases hreq : c.request call with
  | error e =>
    have hnone (reply : Reply) : c.perform op reply = { outcome := .error e, log :=
        [⟨.debug, call.method ++ " " ++ call.path⟩] } := by
      simp only [perform, hcall, hreq]
    rw [hnone] at h
    obtain rfl := Except.error.inj h
    obtain ⟨g, rfl⟩ := request_eq_error hc hbody hreq
    exact .unsent fun reply => by rw [hnone]
  | ok request =>
    have sent : (c.perform op reply).request = some request := (perform_of_request hcall hreq).1
    rw [outcome_of_sent sent] at h
    cases reply with
    | lost reason => exact absurd (Except.error.inj h).symm (hf _)
    | response r =>
      by_cases ht : request.Takes r
      · rw [op.settle_of_takes ht] at h
        cases ha : op.answer r request.url.text with
        | error failure =>
          rw [ha] at h
          exact absurd (Except.error.inj h).symm (hf failure)
        | ok a =>
          rw [ha] at h
          cases h
      · exact escapes_of_redirect sent (hasScheme_of_sent hc hknown sent) ht h hf

end Client
end Escape
end ChatAudit.Api
