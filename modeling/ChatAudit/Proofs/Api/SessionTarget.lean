import ChatAudit.Proofs.Api.SessionPath
import ChatAudit.Proofs.Charset.Utf8
import ChatAudit.Proofs.Net.Reach

/-! Where deletions go: the target tells the session, and every session that fits has one. -/
namespace ChatAudit.Api
open Text

/-- The parameters of a deletion. -/
def deletionParams (userId apiKeyId : Json) : Dict Json :=
  [("user_id", userId), ("api_key_id", apiKeyId)].filter fun e => !e.2.isNull

def deletionCall (id : String) (userId apiKeyId : Json) : Call where
  method := "DELETE"
  path := Operation.sessionPath id
  params := some (deletionParams userId apiKeyId)

/-- Whether the address of a deletion keeps to the limit on the parts of an address. -/
def DeletionFits (u : Url) (id : String) (userId apiKeyId : Json) : Prop :=
  (u.stem ++ (Operation.sessionPath id).toList).length ≤ Url.maxLength ∧
    ((Client.queryOf (deletionParams userId apiKeyId)).getD []).length ≤ Url.maxLength

section Target
variable {c : Client} {request request' : Request} {reply reply' : Reply} {u base v : Url}
  {id id' : String} {userId apiKeyId userId' apiKeyId' : Json}

theorem call_deleteSession (id : String) (userId apiKeyId : Json) :
    (Operation.deleteSession id userId apiKeyId).call =
      .ok (deletionCall id userId apiKeyId) := rfl

theorem encode_injective {cs ds : List Char} (h : Percent.encode cs = Percent.encode ds) :
    cs = ds := by
  have hb : Charset.encodeUtf8 cs = Charset.encodeUtf8 ds := by
    rw [← Percent.bytes_encode, h, Percent.bytes_encode]
  have hd := Charset.decode_encodeUtf8 cs
  rw [hb, Charset.decode_encodeUtf8] at hd
  exact (Except.ok.inj hd).symm

/-- What stands before the query tells the path. -/
theorem path_eq_of_target_eq (hu : Url.Canonical u.path) (hv : Url.Canonical v.path)
    (hun : u.path ≠ []) (hvn : v.path ≠ []) (h : u.target = v.target) : u.path = v.path := by
  have hcut (w : Url) (hw : Url.Canonical w.path) (hn : w.path ≠ []) :
      (cutAt '?' w.target).1 = w.path := by
    have ht : w.target = w.path ++ w.query.elim [] ('?' :: ·) := by simp [Url.target, hn]
    rw [ht]
    cases w.query with
    | none => simp [cutAt_of_not_mem (Url.not_mem_of_canonical hw)]
    | some q => exact congrArg Prod.fst (cutAt_append (Url.not_mem_of_canonical hw) q)
  rw [← hcut u hu hun, h, hcut v hv hvn]

/-- The path of a deletion ends in the escaped id. -/
theorem Client.deletion_path
    (sent : (c.perform (.deleteSession id userId apiKeyId) reply).request = some request)
    (hu : Url.read c.baseUrl = .ok u) (hs : u.scheme ≠ []) (hq : u.query = none)
    (hid : id ≠ "." ∧ id ≠ "..") :
    request.url.path = u.stem ++ sessionsPath ++ '/' :: Percent.encode id.toList ∧
      Url.Canonical request.url.path := by
  obtain ⟨-, hpath⟩ := path_of_deleteSession sent hu hs hq
  have hstem := Url.canonical_stem (Url.canonical_of_read hu hs)
  have hcanonical := Url.canonical_canonicalPath
    (u.stem ++ sessionsPath ++ '/' :: Percent.encode id.toList)
  rw [← hpath] at hcanonical
  rw [canonicalPath_session hstem, if_neg hid.1, if_neg hid.2] at hpath
  exact ⟨hpath, hcanonical⟩

theorem head?_append_sessionsPath (stem rest : List Char) :
    (stem ++ (sessionsPath ++ rest)).head? = (stem ++ sessionsPath).head? := by
  cases stem <;> rfl

theorem urlOf_deletion (hbase : u.asBase = .ok base) (hs : u.scheme ≠ []) (hq : u.query = none)
    (hu : Url.Canonical u.path) (id : String) (userId apiKeyId : Json) :
    Client.urlOf base (deletionCall id userId apiKeyId) =
      if Url.maxLength < (Operation.sessionPath id).toList.length then .error .tooLong
      else base.withParts (u.stem ++ (Operation.sessionPath id).toList) none >>=
        fun url => url.withQuery (Client.queryOf (deletionParams userId apiKeyId)) :=
  Client.urlOf_eq hbase hs hq hu (toList_sessionPath id) (by decide)
    fun _ => pathSafe_of_mem_sessionPath

/-- The address that lists the sessions carries its authority over to the longer path. -/
theorem Client.exists_urlOf_deletion {call : Call} {params : Dict Json} {url : Url}
    (hbase : u.asBase = .ok base) (hs : u.scheme ≠ []) (hq : u.query = none)
    (hu : Url.Canonical u.path) (hcall : call.path.toList = sessionsPath)
    (hparams : call.params = some params) (hurl : urlOf base call = .ok url)
    (hid : id ≠ "." ∧ id ≠ "..") (hfits : DeletionFits u id userId apiKeyId) :
    ∃ w, urlOf base (deletionCall id userId apiKeyId) = .ok w := by
  obtain ⟨hpath, hquery⟩ := hfits
  have hstem := Url.canonical_stem hu
  obtain ⟨-, hscheme⟩ := Url.asBase_spec hbase hs hq hu
  have hsafe : ∀ c ∈ call.path.toList, Url.pathSafe c := by
    rw [hcall]
    exact List.all_eq_true.mp (by decide)
  rw [urlOf_eq hbase hs hq hu hcall (by decide) hsafe, hcall, hparams] at hurl
  split_ifs at hurl
  obtain ⟨list, hlist, hlistQuery⟩ := bind_eq_ok.mp hurl
  obtain ⟨hlistPath, -, hlistScheme⟩ := Url.withParts_spec hlist hscheme
  have hlistPath : list.path = u.stem ++ sessionsPath :=
    hlistPath.trans (Url.canonicalPath_of_canonical (canonical_collection hstem))
  have hhead : (u.stem ++ (Operation.sessionPath id).toList).head? =
      (u.stem ++ sessionsPath).head? := by
    rw [toList_sessionPath]
    exact head?_append_sessionsPath _ _
  have hnone : ((none : Option (List Char)).getD []).length ≤ Url.maxLength := Nat.zero_le _
  obtain ⟨v, hv, hsame⟩ := Url.withParts_of_replaces hlist ⟨rfl, rfl, rfl⟩
    (Url.replaces_of_head hscheme hhead) hpath hnone
  obtain ⟨hvPath, -, -⟩ := Url.withParts_spec hv hscheme
  have hvPath : v.path = u.stem ++ (Operation.sessionPath id).toList := by
    rw [hvPath, toList_sessionPath, ← List.append_assoc, canonicalPath_session hstem,
      if_neg hid.1, if_neg hid.2]
  have hvHead : v.path.head? = list.path.head? := by rw [hvPath, hlistPath, hhead]
  rw [← hvPath] at hpath
  obtain ⟨w, hw, -⟩ := Url.withParts_of_replaces hlistQuery hsame
    (Url.replaces_of_head hlistScheme hvHead) hpath hquery
  have hshort : ¬Url.maxLength < (Operation.sessionPath id).toList.length := by
    rw [hvPath, List.length_append] at hpath
    omega
  refine ⟨w, ?_⟩
  rw [urlOf_deletion hbase hs hq hu, if_neg hshort]
  exact bind_eq_ok.mpr ⟨v, hv, hw⟩

/-- A client that can list sessions can delete each one whose address keeps to the limit. -/
theorem Client.deletion_sent_iff
    (lists : (c.perform (.listSessions .nothing) reply').request = some request')
    (hu : Url.read c.baseUrl = .ok u) (hs : u.scheme ≠ []) (hq : u.query = none)
    (hid : id ≠ "." ∧ id ≠ "..") :
    (∃ request, (c.perform (.deleteSession id userId apiKeyId) reply).request = some request) ↔
      DeletionFits u id userId apiKeyId := by
  have hcanonical := Url.canonical_of_read hu hs
  constructor
  · rintro ⟨request, sent⟩
    obtain ⟨call, hcall, hreq⟩ := sent_iff.mp sent
    obtain rfl := Except.ok.inj (hcall.symm.trans (call_deleteSession id userId apiKeyId))
    obtain ⟨v, base, _, url, _, hv, hbase, -, hurl, -, -⟩ := request_eq_ok_iff.mp hreq
    obtain rfl : u = v := Except.ok.inj (hu.symm.trans hv)
    rw [urlOf_deletion hbase hs hq hcanonical] at hurl
    split_ifs at hurl
    obtain ⟨w, hw, hquery⟩ := bind_eq_ok.mp hurl
    exact ⟨(Url.withParts_eq_ok_iff.mp hw).1.2.1, (Url.withParts_eq_ok_iff.mp hquery).1.2.2.1⟩
  · intro hfits
    obtain ⟨call, hcall, hlists⟩ := sent_iff.mp lists
    obtain rfl := Except.ok.inj hcall
    obtain ⟨v, base, bearer, url, _, hv, hbase, hbearer, hurl, -, -⟩ :=
      request_eq_ok_iff.mp hlists
    obtain rfl : u = v := Except.ok.inj (hu.symm.trans hv)
    obtain ⟨w, hw⟩ := exists_urlOf_deletion hbase hs hq hcanonical (by decide) rfl hurl hid hfits
    exact ⟨_, sent_iff.mpr ⟨_, call_deleteSession id userId apiKeyId, request_eq_ok_iff.mpr
      ⟨u, base, bearer, w, none, hu, hbase, hbearer, hw, rfl, rfl⟩⟩⟩

/-- Deletions of sessions go to addresses that tell the sessions: whatever fits is sent, the last
segment of its path reads back as the id, and no other id has the same target. -/
theorem Client.deleteSession_reads_back
    (lists : (c.perform (.listSessions .nothing) reply').request = some request')
    (hu : Url.read c.baseUrl = .ok u) (hs : u.scheme ≠ []) (hq : u.query = none)
    (hid : id ≠ "." ∧ id ≠ "..") :
    ((∃ request, (c.perform (.deleteSession id userId apiKeyId) reply).request = some request) ↔
        DeletionFits u id userId apiKeyId) ∧
      ∀ request, (c.perform (.deleteSession id userId apiKeyId) reply).request = some request →
        (∃ before segment, request.url.path = before ++ '/' :: segment ∧
          '/' ∉ segment ∧ '?' ∉ segment ∧ '#' ∉ segment ∧
          (Charset.utf8 false).decode (Percent.bytes segment) = .ok id.toList) ∧
        ∀ id' userId' apiKeyId' reply'' request'', id' ≠ "." ∧ id' ≠ ".." → id' ≠ id →
          (c.perform (.deleteSession id' userId' apiKeyId') reply'').request = some request'' →
          request''.url.target ≠ request.url.target := by
  refine ⟨deletion_sent_iff lists hu hs hq hid, fun request sent => ?_⟩
  obtain ⟨hpath, hcanonical⟩ := deletion_path sent hu hs hq hid
  constructor
  · have hnot {d : Char} (hd : ¬(d = '%' ∨ Percent.isUnreserved d)) :
        d ∉ Percent.encode id.toList := fun hm => hd (Percent.mem_encode hm)
    refine ⟨_, _, hpath, hnot (by decide), hnot (by decide), hnot (by decide), ?_⟩
    rw [Percent.bytes_encode, Charset.decode_encodeUtf8]
  · intro id' userId' apiKeyId' reply'' request'' hid' hne sent' htarget
    obtain ⟨hpath', hcanonical'⟩ := deletion_path sent' hu hs hq hid'
    have heq := path_eq_of_target_eq hcanonical' hcanonical (by simp [hpath']) (by simp [hpath])
      htarget
    rw [hpath, hpath', List.append_cancel_left_eq, List.cons.injEq] at heq
    exact hne (String.toList_inj.mp (encode_injective heq.2))

end Target

/-- An id that looks escaped and holds what addresses give a meaning to. -/
theorem gateway_deletion_reads_back :
    DeletionFits gatewayUrl "%2e/ä?#" (.int 7) .null ∧ ∃ request,
      (gateway.perform (.deleteSession "%2e/ä?#" (.int 7) .null) (.lost "")).request =
          some request ∧
        (∃ before segment, request.url.path = before ++ '/' :: segment ∧
          '/' ∉ segment ∧ '?' ∉ segment ∧ '#' ∉ segment ∧
          (Charset.utf8 false).decode (Percent.bytes segment) = .ok "%2e/ä?#".toList) ∧
        ∀ id' userId' apiKeyId' reply'' request'', id' ≠ "." ∧ id' ≠ ".." → id' ≠ "%2e/ä?#" →
          (gateway.perform (.deleteSession id' userId' apiKeyId') reply'').request =
            some request'' →
          request''.url.target ≠ request.url.target := by
  have hlists : (gateway.perform (.listSessions .nothing) (.lost "")).request.isSome := by
    decide +kernel
  have hfits : DeletionFits gatewayUrl "%2e/ä?#" (.int 7) .null := by
    unfold DeletionFits
    decide +kernel
  have hid : "%2e/ä?#" ≠ "." ∧ "%2e/ä?#" ≠ ".." := by decide
  obtain ⟨request', lists⟩ := Option.isSome_iff_exists.mp hlists
  have hsent : ∃ request, (gateway.perform (.deleteSession "%2e/ä?#" (.int 7) .null)
      (.lost "")).request = some request :=
    (Client.deleteSession_reads_back lists read_gateway (by decide) rfl hid).1.mpr hfits
  obtain ⟨request, sent⟩ := hsent
  exact ⟨hfits, request, sent,
    (Client.deleteSession_reads_back lists read_gateway (by decide) rfl hid).2 request sent⟩

end ChatAudit.Api
