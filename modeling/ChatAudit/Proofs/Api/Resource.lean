import ChatAudit.Proofs.Api.Body
import ChatAudit.Proofs.Api.SessionPath
import ChatAudit.Proofs.Net.Ending

/-! Which resource of the gateway a request is for. -/
namespace ChatAudit.Api
open Text

/-- The resources that are posted to. -/
def postPaths : List String := ["/sessions/bulk-delete", "/logs/delete", "/summarize", "/ai-chat"]

/-- Where a resource lies below the base address. -/
def resourcePath (path : String) : List Char := "admin".toList ++ '/' :: ("security" ++ path).toList

/-- Whether a request is posted to a resource. -/
def Request.PostsTo (path : String) (request : Request) : Prop :=
  request.method = "POST" ∧ resourcePath path <:+ request.url.target

instance (path : String) : DecidablePred (Request.PostsTo path) :=
  fun _ => inferInstanceAs (Decidable (_ ∧ _))

variable {c : Client} {call : Call} {request : Request} {reply : Reply} {base : Url}
  {p : List Char} {path : String} {form : Payload.Form} {argument : Argument} {wire : Dict Json}
  {op : Operation}

namespace Operation

/-- Whether an operation is one of the gateway's own, not any request at all. -/
def Known : Operation → Prop
  | .plain _ => False
  | _ => True

/-- The resource that an operation posts to. -/
def resource? : Operation → Option String
  | .deleteSessions _ => some "/sessions/bulk-delete"
  | .deleteLogs _ => some "/logs/delete"
  | .summarize _ => some "/summarize"
  | .converse _ => some "/ai-chat"
  | _ => none

theorem get_eq_ok (h : get path form argument = .ok call) :
    call.method = "GET" ∧ call.path = root ++ path := by
  obtain ⟨params, -, h⟩ := bind_eq_ok.mp h
  obtain rfl := Except.ok.inj h
  exact ⟨rfl, rfl⟩

theorem post_eq_ok (h : post path form argument = .ok call) :
    call.method = "POST" ∧ call.path = root ++ path ∧ call.params = none := by
  obtain ⟨body, -, h⟩ := bind_eq_ok.mp h
  obtain rfl := Except.ok.inj h
  exact ⟨rfl, rfl, rfl⟩

theorem call_of_resource (hop : op.resource? = some path) (h : op.call = .ok call) :
    path ∈ postPaths ∧ call.method = "POST" ∧ call.path = root ++ path ∧ call.params = none := by
  cases op with
  | deleteSessions _ | deleteLogs _ | summarize _ | converse _ =>
    obtain rfl := Option.some.inj hop
    exact ⟨by decide, post_eq_ok h⟩
  | _ => cases hop

theorem eq_deleteSessions (h : op.resource? = some "/sessions/bulk-delete") :
    ∃ body, op = .deleteSessions body := by
  cases op with
  | deleteSessions body => exact ⟨body, rfl⟩
  | deleteLogs _ | summarize _ | converse _ => exact absurd (Option.some.inj h) (by decide)
  | _ => cases h

theorem eq_deleteLogs (h : op.resource? = some "/logs/delete") : ∃ body, op = .deleteLogs body := by
  cases op with
  | deleteLogs body => exact ⟨body, rfl⟩
  | deleteSessions _ | summarize _ | converse _ => exact absurd (Option.some.inj h) (by decide)
  | _ => cases h

theorem eq_converse (h : op.resource? = some "/ai-chat") : ∃ body, op = .converse body := by
  cases op with
  | converse body => exact ⟨body, rfl⟩
  | deleteSessions _ | deleteLogs _ | summarize _ => exact absurd (Option.some.inj h) (by decide)
  | _ => cases h

theorem call_of_no_resource (hknown : op.Known) (hop : op.resource? = none)
    (h : op.call = .ok call) : call.method = "GET" ∨
      call.method = "DELETE" ∧ ∃ id user key, op = .deleteSession id user key := by
  cases op with
  | listSessions _ | exportSessions _ | listMessages _ | statistics _ =>
    exact .inl (get_eq_ok h).1
  | listLogs _ | exportLogs _ =>
    obtain ⟨call', h', h⟩ := bind_eq_ok.mp h
    obtain rfl := Except.ok.inj h
    exact .inl (get_eq_ok h').1
  | listApiKeys =>
    obtain rfl := Except.ok.inj h
    exact .inl rfl
  | deleteSession id user key =>
    obtain rfl := Except.ok.inj h
    exact .inr ⟨rfl, id, user, key, rfl⟩
  | deleteSessions _ | deleteLogs _ | summarize _ | converse _ => cases hop
  | plain _ => cases hknown

end Operation

/-- Paths that can be checked by computing. -/
theorem rooted_of_all {rest : List Char} (hp : p = "admin".toList ++ '/' :: rest)
    (hd : (splitOn '/' rest).all fun s => s != ['.'] && s != ['.', '.'])
    (hs : p.all Url.pathSafe) : Url.Rooted p := by
  have hsafe : ∀ c ∈ p, Url.pathSafe c := List.all_eq_true.mp hs
  refine ⟨⟨_, rest, hp, by decide, by decide, ?_⟩, hsafe⟩
  refine (Url.canonical_of_all hd (List.all_eq_true.mpr fun c hc => hsafe c ?_)).1
  rw [hp]
  exact List.mem_append_right _ (List.mem_cons_of_mem _ hc)

theorem rooted_resource : ∀ path ∈ postPaths, Url.Rooted (resourcePath path) := by
  have hdots : ∀ path ∈ postPaths,
      (splitOn '/' ("security" ++ path).toList).all fun s => s != ['.'] && s != ['.', '.'] := by
    decide
  have hsafe : ∀ path ∈ postPaths, (resourcePath path).all Url.pathSafe := by decide
  exact fun path hpath => rooted_of_all rfl (hdots path hpath) (hsafe path hpath)

/-- No resource lies below the path of another one. -/
theorem eq_of_suffix : ∀ path ∈ postPaths, ∀ path' ∈ postPaths,
    resourcePath path <:+ resourcePath path' → path = path' := by decide

namespace Client

theorem urlOf_of_rooted (hcall : call.path.toList = '/' :: p) (hp : Url.Rooted p) :
    urlOf base call = if Url.maxLength < call.path.toList.length then .error .tooLong
      else base.withTarget (base.target ++ p) >>= fun url =>
        call.params.elim (.ok url) fun params => url.withQuery (queryOf params) := by
  obtain ⟨d, rest, rfl, hd⟩ := hp.exists_cons
  have hsafe : ∀ c ∈ call.path.toList, Url.pathSafe c := by
    rw [hcall, List.forall_mem_cons]
    exact ⟨by decide, hp.safe⟩
  exact urlOf_eq_withTarget hcall hd hsafe

/-- A request without parameters goes to an address that ends in the path of the call. -/
theorem suffix_of_request (hreq : c.request call = .ok request) (hparams : call.params = none)
    (hcall : call.path.toList = '/' :: p) (hp : Url.Rooted p) : p <:+ request.url.target := by
  obtain ⟨u, base, bearer, url, body, -, -, -, hurl, -, rfl⟩ := request_eq_ok_iff.mp hreq
  rw [urlOf_of_rooted hcall hp, hparams] at hurl
  split_ifs at hurl
  obtain ⟨v, hv, hurl⟩ := bind_eq_ok.mp hurl
  obtain rfl := Except.ok.inj hurl
  exact hp.suffix_target hv

theorem method_of_request (hreq : c.request call = .ok request) :
    request.method = upper call.method := by
  obtain ⟨_, _, _, _, _, -, -, -, -, -, rfl⟩ := request_eq_ok_iff.mp hreq
  rfl

theorem postsTo_of_sent (hop : op.resource? = some path)
    (sent : (c.perform op reply).request = some request) : request.PostsTo path := by
  obtain ⟨call, hcall, hreq⟩ := sent_iff.mp sent
  obtain ⟨hmem, hmethod, hpath, hparams⟩ := Operation.call_of_resource hop hcall
  have hroot : ∀ path ∈ postPaths, (Operation.root ++ path).toList = '/' :: resourcePath path := by
    decide
  refine ⟨by rw [method_of_request hreq, hmethod, upper_method _ (by decide)], ?_⟩
  exact suffix_of_request hreq hparams (hpath ▸ hroot path hmem) (rooted_resource path hmem)

theorem resource_of_postsTo (hknown : op.Known) (hmem : path ∈ postPaths)
    (sent : (c.perform op reply).request = some request) (h : request.PostsTo path) :
    op.resource? = some path := by
  cases hop : op.resource? with
  | none =>
    obtain ⟨call, hcall, hreq⟩ := sent_iff.mp sent
    have hmethods : ∀ method ∈ ["GET", "DELETE"],
        method ∈ ["GET", "POST", "DELETE"] ∧ method ≠ "POST" := by decide
    have hmethod : call.method ∈ ["GET", "DELETE"] := by
      rcases Operation.call_of_no_resource hknown hop hcall with hget | ⟨hdelete, -⟩
      · simp [hget]
      · simp [hdelete]
    obtain ⟨hupper, hother⟩ := hmethods _ hmethod
    have hpost := h.1
    rw [method_of_request hreq, upper_method _ hupper] at hpost
    exact absurd hpost hother
  | some path' =>
    obtain ⟨call, hcall, -⟩ := sent_iff.mp sent
    have hmem' := (Operation.call_of_resource hop hcall).1
    -- both paths end the same address, so one of them ends the other
    rcases List.suffix_or_suffix_of_suffix h.2 (postsTo_of_sent hop sent).2 with hle | hle
    · rw [eq_of_suffix path hmem path' hmem' hle]
    · rw [eq_of_suffix path' hmem' path hmem hle]

theorem eq_deleteSession (hknown : op.Known) (sent : (c.perform op reply).request = some request)
    (h : request.method = "DELETE") : ∃ id user key, op = .deleteSession id user key := by
  obtain ⟨call, hcall, hreq⟩ := sent_iff.mp sent
  rw [method_of_request hreq] at h
  cases hop : op.resource? with
  | none =>
    rcases Operation.call_of_no_resource hknown hop hcall with hget | ⟨-, hdelete⟩
    · rw [hget, upper_method _ (by decide)] at h
      exact absurd h (by decide)
    · exact hdelete
  | some path =>
    rw [(Operation.call_of_resource hop hcall).2.1, upper_method _ (by decide)] at h
    exact absurd h (by decide)

/-- What an operation posts is the body of its request. -/
theorem body_of_posts (sent : (c.perform op reply).request = some request)
    (hposts : op.Posts path wire) : request.body = some (Json.obj wire).write := by
  obtain ⟨call, hcall, hreq⟩ := sent_iff.mp sent
  obtain ⟨hop, hbody⟩ := hposts
  obtain rfl := Except.ok.inj (hcall.symm.trans hop)
  obtain ⟨_, _, _, _, body, -, -, -, -, hsent, rfl⟩ := request_eq_ok_iff.mp hreq
  simp only [Option.mapM_some, hbody] at hsent
  exact (Except.ok.inj hsent).symm

end Client
end ChatAudit.Api
