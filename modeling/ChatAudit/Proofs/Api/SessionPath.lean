import ChatAudit.Proofs.Api.Outcome
import ChatAudit.Proofs.Net.Join

/-! Which paths requests go to, in particular the one that deletes a session. -/
namespace ChatAudit.Api
open Text

namespace Client
variable {c : Client} {call : Call} {request : Request} {u base : Url}

/-- A request is put together from the base address, the token and the call. -/
theorem request_eq_ok_iff : c.request call = .ok request ↔
    ∃ u base bearer url body, Url.read c.baseUrl = .ok u ∧ u.asBase = .ok base ∧
      c.bearer = .ok bearer ∧ urlOf base call = .ok url ∧ call.body.mapM bodyText = .ok body ∧
      request = ⟨upper call.method, url, (basic? url).or bearer, body,
        if call.patient then .null else c.timeout⟩ := by
  unfold Client.request
  constructor
  · intro h
    obtain ⟨base, hbase, h⟩ := bind_eq_ok.mp h
    obtain ⟨u, hu, hbase⟩ := bind_eq_ok.mp (mapError_eq_ok.mp hbase)
    obtain ⟨bearer, hbearer, h⟩ := bind_eq_ok.mp h
    obtain ⟨url, hurl, h⟩ := bind_eq_ok.mp h
    obtain ⟨body, hbody, h⟩ := bind_eq_ok.mp h
    exact ⟨u, base, bearer, url, body, hu, hbase, hbearer, mapError_eq_ok.mp hurl, hbody,
      (Except.ok.inj h).symm⟩
  · rintro ⟨u, base, bearer, url, body, hu, hbase, hbearer, hurl, hbody, rfl⟩
    simp only [hu, hbase, hbearer, hurl, hbody, bind, Except.bind, Except.mapError]
    rfl

/-- A call is put at the end of the base address, whatever that is, and then gets its query. -/
theorem urlOf_eq_withTarget {d : Char} {rest : List Char} (hcall : call.path.toList = '/' :: d :: rest)
    (hd : d ≠ '/') (hsafe : ∀ c ∈ call.path.toList, Url.pathSafe c) :
    urlOf base call = if Url.maxLength < call.path.toList.length then .error .tooLong
      else base.withTarget (base.target ++ d :: rest) >>= fun url =>
        call.params.elim (.ok url) fun params => url.withQuery (queryOf params) := by
  have hjoin : base.resolve ⟨[], [], [], none, call.path.toList, none, none⟩ =
      base.withTarget (base.target ++ d :: rest) := by
    have htarget : Url.target ⟨[], [], [], none, call.path.toList, none, none⟩ =
        '/' :: d :: rest := by
      simp [Url.target, hcall]
    simp only [Url.resolve, Url.isAbsolute, List.isEmpty_nil, Bool.not_true, Bool.false_and,
      Bool.false_eq_true, if_false]
    rw [htarget]
    simp [hd]
  unfold urlOf
  rw [Url.read_of_path hcall hd hsafe]
  split_ifs
  · rfl
  · simp only [bind, Except.bind, hjoin]
    cases base.withTarget (base.target ++ d :: rest) with
    | error f => rfl
    | ok url => cases call.params <;> rfl

/-- Below a canonical path nothing of the call is taken for a query. -/
theorem urlOf_eq {d : Char} {rest : List Char} (hbase : u.asBase = .ok base) (hs : u.scheme ≠ [])
    (hq : u.query = none) (hu : Url.Canonical u.path) (hcall : call.path.toList = '/' :: d :: rest)
    (hd : d ≠ '/') (hsafe : ∀ c ∈ call.path.toList, Url.pathSafe c) :
    urlOf base call = if Url.maxLength < call.path.toList.length then .error .tooLong
      else base.withParts (u.stem ++ call.path.toList) none >>= fun url =>
        call.params.elim (.ok url) fun params => url.withQuery (queryOf params) := by
  obtain ⟨htarget, -⟩ := Url.asBase_spec hbase hs hq hu
  have hquery : '?' ∉ u.stem ++ call.path.toList := by
    intro hm
    rcases List.mem_append.mp hm with hm | hm
    · exact Url.not_mem_of_canonical (Url.canonical_stem hu) hm
    · exact absurd (hsafe '?' hm) (by decide)
  have hjoined : base.target ++ d :: rest = u.stem ++ call.path.toList := by
    rw [htarget, hcall]
    simp
  rw [urlOf_eq_withTarget hcall hd hsafe, hjoined, Url.withTarget, cutAt_of_not_mem hquery]

/-- A call goes to its path below the path of the base address, in canonical form. -/
theorem path_of_request {d : Char} {rest : List Char} (hreq : c.request call = .ok request)
    (hu : Url.read c.baseUrl = .ok u) (hs : u.scheme ≠ []) (hq : u.query = none)
    (hcall : call.path.toList = '/' :: d :: rest) (hd : d ≠ '/')
    (hsafe : ∀ c ∈ call.path.toList, Url.pathSafe c) :
    request.url.path = Url.canonicalPath (u.stem ++ call.path.toList) := by
  obtain ⟨u', base, bearer, url', body, hu', hbase, -, hurl, -, rfl⟩ := request_eq_ok_iff.mp hreq
  obtain rfl : u = u' := Except.ok.inj (hu.symm.trans hu')
  have hcanonical := Url.canonical_of_read hu hs
  obtain ⟨-, hscheme⟩ := Url.asBase_spec hbase hs hq hcanonical
  rw [urlOf_eq hbase hs hq hcanonical hcall hd hsafe] at hurl
  split_ifs at hurl
  obtain ⟨url, hparts, hurl⟩ := bind_eq_ok.mp hurl
  obtain ⟨hpath, -, hscheme⟩ := Url.withParts_spec hparts hscheme
  cases hparams : call.params with
  | none =>
    obtain rfl : url = url' := by simpa [hparams] using hurl
    exact hpath
  | some params =>
    replace hurl : url.withQuery (queryOf params) = .ok url' := by simpa [hparams] using hurl
    obtain ⟨hfinal, -, -⟩ := Url.withParts_spec hurl hscheme
    rw [hfinal, hpath, Url.canonicalPath_of_canonical (Url.canonical_canonicalPath _)]

end Client

/-- The path of the collection that sessions lie in. -/
def sessionsPath : List Char := "/admin/security/sessions".toList

theorem toList_sessionPath (id : String) :
    (Operation.sessionPath id).toList = sessionsPath ++ '/' :: Percent.encode id.toList := by
  have hroot : (Operation.root ++ "/sessions/").toList = sessionsPath ++ ['/'] := by decide
  rw [Operation.sessionPath, String.toList_append, hroot, String.toList_ofList, List.append_assoc]
  rfl

section Delete
variable {c : Client} {request : Request} {reply : Reply} {u : Url} {id : String}
  {userId apiKeyId : Json}

theorem not_mem_encode_slash (cs : List Char) : '/' ∉ Percent.encode cs := by
  intro hm
  rcases Percent.mem_encode hm with h | h <;> exact absurd h (by decide)

theorem pathSafe_of_mem_encode {d : Char} {cs : List Char} (h : d ∈ Percent.encode cs) :
    Url.pathSafe d := by
  rcases Percent.mem_encode h with rfl | hu
  · decide
  · exact Url.pathSafe_of_isUnreserved hu

/-- An id is a dot segment exactly if it is one when it is escaped. -/
theorem plain_encode (id : String) :
    Url.Plain (Percent.encode id.toList) ↔ id ≠ "." ∧ id ≠ ".." := by
  have hdot : Percent.encode id.toList = ['.'] ↔ id = "." := by
    rw [Percent.encode_eq_iff (by decide) (by decide), ← String.toList_inj]
    rfl
  have hdots : Percent.encode id.toList = ['.', '.'] ↔ id = ".." := by
    rw [Percent.encode_eq_iff (by decide) (by decide), ← String.toList_inj]
    rfl
  rw [Url.Plain, Ne, Ne, hdot, hdots]

theorem pathSafe_of_mem_sessionPath {d : Char} (h : d ∈ (Operation.sessionPath id).toList) :
    Url.pathSafe d := by
  rw [toList_sessionPath] at h
  rcases List.mem_append.mp h with hm | hm
  · exact List.all_eq_true.mp (by decide : sessionsPath.all Url.pathSafe = true) d hm
  · rcases List.mem_cons.mp hm with rfl | hm
    · decide
    · exact pathSafe_of_mem_encode hm

theorem upper_method : ∀ method ∈ ["GET", "POST", "DELETE"], upper method = method := by
  decide +kernel

/-- The request for a deletion goes to the escaped id in the collection of sessions, as far as
dot segments let it. -/
theorem Client.path_of_deleteSession
    (sent : (c.perform (.deleteSession id userId apiKeyId) reply).request = some request)
    (hu : Url.read c.baseUrl = .ok u) (hs : u.scheme ≠ []) (hq : u.query = none) :
    request.method = "DELETE" ∧ request.url.path =
      Url.canonicalPath (u.stem ++ sessionsPath ++ '/' :: Percent.encode id.toList) := by
  obtain ⟨call, hcall, hreq⟩ := sent_iff.mp sent
  obtain rfl := Except.ok.inj hcall
  constructor
  · obtain ⟨_, _, _, _, _, -, -, -, -, -, rfl⟩ := request_eq_ok_iff.mp hreq
    exact upper_method "DELETE" (by decide)
  · rw [path_of_request hreq hu hs hq (toList_sessionPath id) (by decide)
      fun _ => pathSafe_of_mem_sessionPath, toList_sessionPath, List.append_assoc]

theorem canonical_securityPath (h : Url.Canonical u.stem) :
    Url.Canonical (u.stem ++ "/admin/security".toList) :=
  Url.canonical_append.mpr ⟨h, Url.canonical_of_all (by decide) (by decide)⟩

theorem sessionsPath_eq (stem : List Char) : stem ++ sessionsPath =
    stem ++ "/admin/security".toList ++ '/' :: "sessions".toList := by
  rw [List.append_assoc]
  rfl

theorem canonical_collection (h : Url.Canonical u.stem) :
    Url.Canonical (u.stem ++ sessionsPath) := by
  rw [sessionsPath_eq]
  exact Url.canonical_append.mpr
    ⟨canonical_securityPath h, Url.canonical_of_all (by decide) (by decide)⟩

/-- Where the id of a session leads below the base path. -/
theorem canonicalPath_session (h : Url.Canonical u.stem) (id : String) :
    Url.canonicalPath (u.stem ++ sessionsPath ++ '/' :: Percent.encode id.toList) =
      if id = "." then u.stem ++ sessionsPath
      else if id = ".." then u.stem ++ "/admin/security".toList
      else u.stem ++ sessionsPath ++ '/' :: Percent.encode id.toList := by
  have hcollection := canonical_collection h
  split_ifs with hdot hdots
  · subst hdot
    exact Url.canonicalPath_append_dot hcollection
  · subst hdots
    rw [sessionsPath_eq]
    exact Url.canonicalPath_append_dots (canonical_securityPath h) (by decide) (by simp [Url.Plain])
  · have hplain := (plain_encode id).mpr ⟨hdot, hdots⟩
    have hid : Url.Canonical (Percent.encode id.toList) :=
      ⟨(Url.dotFree_of_not_mem (not_mem_encode_slash _)).mpr hplain,
        fun _ hd => pathSafe_of_mem_encode hd⟩
    exact Url.canonicalPath_of_canonical (Url.canonical_append.mpr ⟨hcollection, hid⟩)

/-- An id that is a dot segment does not lead to a segment in the collection. -/
theorem canonicalPath_ne_of_dots (h : Url.Canonical u.stem) (hid : ¬(id ≠ "." ∧ id ≠ ".."))
    (segment : List Char) :
    Url.canonicalPath (u.stem ++ sessionsPath ++ '/' :: Percent.encode id.toList) ≠
      u.stem ++ sessionsPath ++ '/' :: segment := by
  rw [canonicalPath_session h]
  intro heq
  have hlen := congrArg List.length heq
  have hsessions : sessionsPath.length = 24 := by decide
  have hroot : "/admin/security".toList.length = 15 := by decide
  split_ifs at hlen with hdot hdots
  · simp only [List.length_append, List.length_cons] at hlen
    omega
  · simp only [List.length_append, List.length_cons, hsessions, hroot] at hlen
    omega
  · exact hid ⟨hdot, hdots⟩

/-- The exact reach of the escaping of ids: a deletion goes to one segment in the collection of
sessions unless the id is a dot segment. -/
theorem Client.deleteSession_iff (hid : id ≠ "")
    (sent : (c.perform (.deleteSession id userId apiKeyId) reply).request = some request)
    (hu : Url.read c.baseUrl = .ok u) (hs : u.scheme ≠ []) (hq : u.query = none) :
    request.method = "DELETE" ∧
      ((∃ segment, segment ≠ [] ∧ '/' ∉ segment ∧
          request.url.path = u.stem ++ sessionsPath ++ '/' :: segment) ↔
        id ≠ "." ∧ id ≠ "..") := by
  obtain ⟨hmethod, hpath⟩ := path_of_deleteSession sent hu hs hq
  have hstem := Url.canonical_stem (Url.canonical_of_read hu hs)
  refine ⟨hmethod, ?_, ?_⟩
  · rintro ⟨segment, -, -, hsegment⟩
    by_contra hdots
    exact canonicalPath_ne_of_dots hstem hdots segment (hpath.symm.trans hsegment)
  · rintro ⟨hdot, hdots⟩
    rw [canonicalPath_session hstem, if_neg hdot, if_neg hdots] at hpath
    refine ⟨_, ?_, not_mem_encode_slash _, hpath⟩
    rw [Ne, Percent.encode_eq_iff List.not_mem_nil rfl, String.toList_eq_nil_iff]
    exact hid

end Delete

/-- The address of the gateway in its parts. -/
def gatewayUrl : Url :=
  ⟨"http".toList, [], "gateway.test".toList, none, "/api/v1".toList, none, none⟩

theorem read_gateway : Url.read gateway.baseUrl = .ok gatewayUrl := rfl

theorem gateway_deleteSession : ∃ request,
    (gateway.perform (.deleteSession "a/b" .null .null) (.lost "")).request = some request ∧
      request.method = "DELETE" ∧
      ∃ segment, segment ≠ [] ∧ '/' ∉ segment ∧
        request.url.path = gatewayUrl.stem ++ sessionsPath ++ '/' :: segment := by
  have hsent : (gateway.perform (.deleteSession "a/b" .null .null) (.lost "")).request.isSome := by
    decide +kernel
  obtain ⟨request, sent⟩ := Option.isSome_iff_exists.mp hsent
  obtain ⟨hmethod, hiff⟩ := Client.deleteSession_iff (by decide) sent read_gateway (by decide) rfl
  exact ⟨request, sent, hmethod, hiff.mpr ⟨by decide, by decide⟩⟩

/-- An id of two dots deletes at the root of all operations. -/
theorem gateway_deleteSession_dots : ∃ request,
    (gateway.perform (.deleteSession ".." .null .null) (.lost "")).request = some request ∧
      request.method = "DELETE" ∧ request.url.path = "/api/v1/admin/security".toList ∧
      ¬∃ segment, segment ≠ [] ∧ '/' ∉ segment ∧
        request.url.path = gatewayUrl.stem ++ sessionsPath ++ '/' :: segment := by
  have hsent : (gateway.perform (.deleteSession ".." .null .null) (.lost "")).request.isSome := by
    decide +kernel
  obtain ⟨request, sent⟩ := Option.isSome_iff_exists.mp hsent
  obtain ⟨hmethod, hpath⟩ := Client.path_of_deleteSession sent read_gateway (by decide) rfl
  have hstem : Url.Canonical gatewayUrl.stem :=
    Url.canonical_stem (Url.canonical_of_read read_gateway (by decide))
  refine ⟨request, sent, hmethod, ?_, ?_⟩
  · rw [hpath, canonicalPath_session hstem, if_neg (by decide), if_pos rfl]
    rfl
  · rintro ⟨segment, -, -, hsegment⟩
    exact canonicalPath_ne_of_dots hstem (by decide) segment (hpath.symm.trans hsegment)

end ChatAudit.Api
