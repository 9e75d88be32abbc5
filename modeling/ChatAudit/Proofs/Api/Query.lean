import ChatAudit.Proofs.Api.SessionPath
import ChatAudit.Proofs.Api.Body
import ChatAudit.Proofs.Net.Form
import ChatAudit.Proofs.Payload.Whole

/-! What a gateway reads in the query of a request. -/
namespace ChatAudit

/-- The text of a value that is no list. -/
def Json.itemText : Json → String
  | .null => ""
  | .bool true => "true"
  | .bool false => "false"
  | v => v.display

/-- The texts of a parameter, one for each item of a list. -/
def Json.texts : Json → List String
  | .arr vs => vs.map itemText
  | v => [itemText v]

namespace Api
open Text

/-- The parameters that entries stand for. -/
def spelled (d : Dict Json) : List (String × String) :=
  List.flatMap (fun e => (Json.texts e.2).map fun text => (e.1, text)) d

/-- The parameters of a request: they stand behind the first question mark of what is asked for. -/
def Request.pairs? (request : Request) : Option (List (String × String)) :=
  Form.decode? ((cutAt '?' request.url.target).2.getD [])

variable {c : Client} {form : Payload.Form} {op : Argument → Operation} {a : Argument}
  {d ps : Dict Json} {p : Payload} {request : Request} {reply : Reply} {path : String}
  {patient : Bool}

section Spelling

theorem valueText_eq (v : Json) : Form.valueText v = v.itemText := by
  cases v with
  | bool b => cases b <;> rfl
  | _ => rfl

theorem pairs_eq_spelled (d : Dict Json) : Form.pairs d = spelled d := by
  have hpairs (key : String) (v : Json) :
      Form.pairsOf key v = (Json.texts v).map fun text => (key, text) := by
    cases v with
    | arr vs => simp [Form.pairsOf, Json.texts, valueText_eq]
    | _ => simp [Form.pairsOf, Json.texts, valueText_eq]
  unfold Form.pairs spelled
  simp only [hpairs]

theorem queryOf_getD (d : Dict Json) : (Client.queryOf d).getD [] = Form.encode (spelled d) := by
  unfold Client.queryOf
  cases d with
  | nil => rfl
  | cons e d =>
    rw [← pairs_eq_spelled]
    rfl

/-- The query is not escaped a second time on its way into an address. -/
theorem normalize_queryOf (d : Dict Json) :
    ((Client.queryOf d).map (Percent.normalize Url.querySafe)).getD [] =
      Form.encode (spelled d) := by
  have hquery := queryOf_getD d
  cases hq : Client.queryOf d with
  | none =>
    rw [hq] at hquery
    exact hquery
  | some query =>
    rw [hq, Option.getD_some] at hquery
    rw [Option.map_some, Option.getD_some, hquery, Form.normalize_encode]

end Spelling

section Target

/-- What stands behind the path of an address is its query. -/
theorem cutAt_target {u : Url} (h : ∀ c ∈ u.path, Url.pathSafe c) :
    (cutAt '?' u.target).2 = u.query := by
  have hpath : '?' ∉ (if u.path.isEmpty then ['/'] else u.path) := by
    intro hmem
    split_ifs at hmem
    · revert hmem
      decide
    · exact absurd (h '?' hmem) (by decide)
  unfold Url.target
  cases u.query with
  | none =>
    rw [Option.elim_none, List.append_nil, cutAt_of_not_mem hpath]
  | some query =>
    rw [Option.elim_some, cutAt_append hpath]

/-- An address can be given each query up to the limit, and keeps it as it is spelled. -/
theorem withQuery_spec {u v : Url} {query : Option (List Char)} (hv : u.withQuery query = .ok v)
    (qs : Dict Json) :
    ((∃ w, u.withQuery (Client.queryOf qs) = .ok w) ↔
        (Form.encode (spelled qs)).length ≤ Url.maxLength) ∧
      ∀ w, u.withQuery (Client.queryOf qs) = .ok w →
        Form.decode? ((cutAt '?' w.target).2.getD []) = some (spelled qs) := by
  unfold Url.withQuery at hv ⊢
  rw [← queryOf_getD]
  constructor
  · constructor
    · rintro ⟨w, hw⟩
      exact (Url.withParts_eq_ok_iff.mp hw).1.2.2.1
    · intro hlength
      have hpath := (Url.withParts_eq_ok_iff.mp hv).1.2.1
      obtain ⟨w, hw, -⟩ :=
        Url.withParts_of_replaces hv ⟨rfl, rfl, rfl⟩ (Url.replaces_of_take rfl) hpath hlength
      exact ⟨w, hw⟩
  · intro w hw
    have hparts := (Url.withParts_eq_ok_iff.mp hw).2
    obtain ⟨-, hquery, -⟩ := Url.ofParts_spec hparts
    rw [cutAt_target (Url.pathSafe_of_ofParts hparts), hquery, normalize_queryOf,
      Form.decode?_encode]

end Target

section Sent

theorem urlOf_query (base : Url) (path : String) (patient : Bool) (ps : Dict Json) :
    Client.urlOf base (Operation.query path patient ps) =
      (Url.read (Operation.root ++ path) >>= base.resolve) >>= fun url =>
        url.withQuery (Client.queryOf ps) := by
  unfold Client.urlOf Operation.query
  cases Url.read (Operation.root ++ path) <;> rfl

/-- A client that can ask with some parameters can ask with all others up to the limit, and asks
with just these. -/
theorem request_query (h : c.request (Operation.query path patient ps) = .ok request)
    (qs : Dict Json) :
    ((∃ request', c.request (Operation.query path patient qs) = .ok request') ↔
        (Form.encode (spelled qs)).length ≤ Url.maxLength) ∧
      ∀ request', c.request (Operation.query path patient qs) = .ok request' →
        request'.pairs? = some (spelled qs) := by
  obtain ⟨u, base, bearer, url, body, hu, hbase, hbearer, hurl, hbody, -⟩ :=
    Client.request_eq_ok_iff.mp h
  rw [urlOf_query] at hurl
  obtain ⟨joined, hjoined, hurl⟩ := bind_eq_ok.mp hurl
  obtain ⟨hlength, hpairs⟩ := withQuery_spec hurl qs
  have hurls : Client.urlOf base (Operation.query path patient qs) =
      joined.withQuery (Client.queryOf qs) := by
    rw [urlOf_query, hjoined]
    rfl
  have hsent {request' : Request}
      (h' : c.request (Operation.query path patient qs) = .ok request') :
      joined.withQuery (Client.queryOf qs) = .ok request'.url := by
    obtain ⟨u', base', _, url', _, hu', hbase', -, hurl', -, rfl⟩ := Client.request_eq_ok_iff.mp h'
    obtain rfl := Except.ok.inj (hu.symm.trans hu')
    obtain rfl := Except.ok.inj (hbase.symm.trans hbase')
    exact hurls.symm.trans hurl'
  constructor
  · rw [← hlength]
    constructor
    · rintro ⟨request', h'⟩
      exact ⟨_, hsent h'⟩
    · rintro ⟨w, hw⟩
      exact ⟨_, Client.request_eq_ok_iff.mpr
        ⟨u, base, bearer, w, body, hu, hbase, hbearer, hurls.trans hw, hbody, rfl⟩⟩
  · intro request' h'
    exact hpairs _ (hsent h')

theorem call_of_entries {build : Dict Json → Call}
    (hcall : ∀ a : Argument, (op a).call = (a.resolve form).map build)
    (h : Payload.read form d = .accepted p) : (op (.entries d)).call = .ok (build p.wire) := by
  rw [hcall, resolve_of_accepted h]
  rfl

theorem request_of_sent {build : Dict Json → Call}
    (hcall : ∀ a : Argument, (op a).call = (a.resolve form).map build)
    (sent : (c.perform (op a) reply).request = some request) :
    ∃ ps, c.request (build ps) = .ok request := by
  obtain ⟨call, hop, hrequest⟩ := Client.sent_iff.mp sent
  rw [hcall] at hop
  cases hps : a.resolve form with
  | error f =>
    rw [hps] at hop
    cases hop
  | ok ps =>
    rw [hps] at hop
    obtain rfl := Except.ok.inj hop
    exact ⟨ps, hrequest⟩

theorem sent_entries_iff {build : Dict Json → Call}
    (hcall : ∀ a : Argument, (op a).call = (a.resolve form).map build)
    (h : Payload.read form d = .accepted p) :
    (c.perform (op (.entries d)) reply).request = some request ↔
      c.request (build p.wire) = .ok request := by
  have hop : (op (.entries d)).call = .ok (build p.wire) := call_of_entries hcall h
  rw [Client.sent_iff]
  constructor
  · rintro ⟨call, hcall', hrequest⟩
    obtain rfl := Except.ok.inj (hop.symm.trans hcall')
    exact hrequest
  · intro hrequest
    exact ⟨_, hop, hrequest⟩

end Sent

/-- The gateway reads the parameters of a request record in its query, in their order and no others:
no sign in a key or a value makes a difference. Unknown values come through unchanged if all of
their numbers are finite. A client that can send any query of the operation can send the record if
it keeps to the limit of an address. -/
theorem Client.query_reads_back (hform : form.isQuery) (hop : op ∈ Operation.taking form)
    (h : Payload.read form d = .accepted p) (reply : Reply) :
    p.fields.map Prod.fst = form.fields ∧
      (∀ request, (c.perform (op (.entries d)) reply).request = some request →
        request.pairs? = some (spelled (p.sent form d)) ∧
        ((∀ e ∈ Payload.unknown form d, e.2.isFinite) → request.pairs? =
          some (spelled (Payload.sentFields p.fields ++ Payload.unknown form d)))) ∧
      ∀ a request, (c.perform (op a) reply).request = some request →
        ((∃ request', (c.perform (op (.entries d)) reply).request = some request') ↔
          (Form.encode (spelled (p.sent form d))).length ≤ Url.maxLength) := by
  obtain ⟨path, patient, hcall⟩ := query_of_taking hform hop
  have hiff (request : Request) : (c.perform (op (.entries d)) reply).request = some request ↔
      c.request (Operation.query path patient (p.sent form d)) = .ok request := by
    rw [sent_entries_iff hcall h, Payload.wire_of_read h]
  refine ⟨(Payload.read_eq_accepted.mp h).1, ?_, ?_⟩
  · intro request sent
    have hrequest := (hiff request).mp sent
    have hread := (request_query hrequest (p.sent form d)).2 request hrequest
    constructor
    · exact hread
    · intro hfinite
      rw [hread, Payload.sent_of_finite hfinite]
  · intro a request sent
    obtain ⟨ps, hrequest⟩ := request_of_sent hcall sent
    rw [← (request_query hrequest (p.sent form d)).1]
    exact exists_congr hiff

/-- Filters with keys and values that look like parts of a query, with nulls and with lists. -/
def awkward : Dict Json :=
  [("a&b=c", .str "d=e&f"), ("query", .str "100% +#é中 "), ("page", .str " 2 "), ("platform", .null),
    ("%3D", .arr [.bool true, .null, .str "&", .arr [.int 1, .null]]), ("x", .null)]

def awkwardPairs : List (String × String) :=
  [("page", "2"), ("q", "100% +#é中 "), ("a&b=c", "d=e&f"), ("%3D", "true"), ("%3D", ""),
    ("%3D", "&"), ("%3D", "[1, None]")]

theorem gateway_query_reads_back : ∃ request,
    (gateway.perform (.listSessions (.entries awkward)) (.lost "")).request = some request ∧
      request.pairs? = some awkwardPairs := by
  have hable : (gateway.perform (.listSessions .nothing) (.lost "")).request.isSome := by
    decide +kernel
  obtain ⟨empty, able⟩ := Option.isSome_iff_exists.mp hable
  have hspelled : ((Payload.read .sessions awkward).map
      fun p => spelled (p.sent .sessions awkward)).toOption = some awkwardPairs := by
    decide +kernel
  have hshort : (Form.encode awkwardPairs).length ≤ Url.maxLength := by decide
  cases hread : Payload.read .sessions awkward with
  | rejected issues =>
    rw [hread] at hspelled
    cases hspelled
  | accepted p =>
    rw [hread] at hspelled
    have hpairs : spelled (p.sent .sessions awkward) = awkwardPairs := Option.some.inj hspelled
    obtain ⟨-, hreads, hsent⟩ := Client.query_reads_back (c := gateway) rfl List.mem_cons_self
      hread (.lost "")
    rw [hpairs] at hreads hsent
    obtain ⟨request, sent⟩ := (hsent .nothing empty able).mpr hshort
    exact ⟨request, sent, (hreads request sent).1⟩

/-- A number that is too large for a double is read from JSON, but not sent. -/
theorem infinite_not_spelled : ∃ p request,
    Json.read? "1e999".toList = some (.float (.infinite false)) ∧
    Payload.read .logs [("x", .float (.infinite false))] = .accepted p ∧
    (gateway.perform (.listLogs (.entries [("x", .float (.infinite false))])) (.lost "")).request =
      some request ∧
    request.pairs? = some [("x", "")] ∧
    spelled (Payload.sentFields p.fields ++
      Payload.unknown .logs [("x", .float (.infinite false))]) = [("x", "inf")] := by
  obtain ⟨call, hcall, hwire⟩ : ∃ call,
      (Operation.listLogs (.entries [("x", .float (.infinite false))])).call = .ok call ∧
        call = Operation.query "/logs" true [("x", .null)] := ⟨_, rfl, rfl⟩
  subst hwire
  have hsent : ∃ request, gateway.request (Operation.query "/logs" true [("x", .null)]) =
      .ok request := ⟨_, rfl⟩
  obtain ⟨request, hrequest⟩ := hsent
  have hpairs := (request_query hrequest [("x", .null)]).2 request hrequest
  exact ⟨_, request, rfl, rfl, Client.sent_iff.mpr ⟨_, hcall, hrequest⟩, hpairs, rfl⟩

end Api
end ChatAudit
