import ChatAudit.Proofs.Api.Query
import ChatAudit.Proofs.Api.Resource
import ChatAudit.Proofs.Api.Traffic
import ChatAudit.Proofs.Json.Document

/-! What a gateway reads in the body of a request. -/
namespace ChatAudit.Api

variable {c : Client} {form : Payload.Form} {op : Argument → Operation} {d ps : Dict Json}
  {p : Payload} {request : Request} {reply : Reply} {path : String}

/-- A client that can post one body can post every other one that has a text. -/
theorem exists_request_message {qs : Dict Json} {text : String}
    (h : c.request (Operation.message path ps) = .ok request)
    (hbody : Client.bodyText qs = .ok text) :
    ∃ request', c.request (Operation.message path qs) = .ok request' := by
  obtain ⟨u, base, bearer, url, body, hu, hbase, hbearer, hurl, -, -⟩ :=
    Client.request_eq_ok_iff.mp h
  have hbody' : (Operation.message path qs).body.mapM Client.bodyText = .ok (some text) := by
    simp only [Operation.message, Option.mapM_some, hbody]
    rfl
  exact ⟨_, Client.request_eq_ok_iff.mpr
    ⟨u, base, bearer, url, some text, hu, hbase, hbearer, hurl, hbody', rfl⟩⟩

/-- The gateway reads in the body of a request record all that the record says and nothing else:
each field with a value, then each unknown entry that is not null, as it was given. The entries may
be all that a document can hold: no key comes twice, and no whole number is too long to be read. A
client that can post any body of the operation can post the record. -/
theorem Client.body_reads_back (hform : form.isQuery = false) (hop : op ∈ Operation.taking form)
    (h : Payload.read form d = .accepted p) (hd : Json.Readable (.obj d))
    (hfloat : ∀ v ∈ p.added, v.Floatless) (reply : Reply) :
    p.fields.map Prod.fst = form.fields ∧
      (∀ request, (c.perform (op (.entries d)) reply).request = some request →
        ∃ text, request.body = some text ∧
          Json.readBytes? (Charset.encodeUtf8 text.toList) = some (.obj (p.whole form d))) ∧
      ∀ a request, (c.perform (op a) reply).request = some request →
        ∃ request', (c.perform (op (.entries d)) reply).request = some request' := by
  obtain ⟨path, hcall⟩ := message_of_taking hform hop
  have hwhole : p.wire = p.whole form d := Payload.wire_eq_whole h hfloat
  refine ⟨(Payload.read_eq_accepted.mp h).1, ?_, ?_⟩
  · intro request sent
    have hposts : (op (.entries d)).Posts path p.wire :=
      ⟨call_of_entries hcall h, bodyText_wire p⟩
    have hbody := body_of_posts sent hposts
    rw [hwhole] at hbody
    refine ⟨_, hbody, ?_⟩
    apply Json.readBytes?_write
    · exact Payload.readable_whole h hd
    · exact Payload.floatless_whole h hfloat
  · intro a request sent
    obtain ⟨ps, hrequest⟩ := request_of_sent hcall sent
    obtain ⟨request', hrequest'⟩ := exists_request_message hrequest (bodyText_wire p)
    exact ⟨request', (sent_entries_iff hcall h).mpr hrequest'⟩

/-- A conversation with a turn that says more than it has to, nulls at every depth, and characters
that are written as escapes. -/
def spoken : Dict Json :=
  [("tags", .arr [.null, .obj [("b", .null), ("a", .int (-123456789012345678901234567890))]]),
    ("messages", .arr [.obj [("content", .str "say \"hé\"\n\x01"), ("at", .null),
      ("meta", .obj [("n", .null)])]]),
    ("context", .null)]

/-- What it says as a whole. -/
def spokenWhole : Dict Json :=
  [("messages", .arr [.obj [("role", .str "user"), ("content", .str "say \"hé\"\n\x01"),
      ("meta", .obj [("n", .null)])]]),
    ("tags", .arr [.null, .obj [("b", .null), ("a", .int (-123456789012345678901234567890))]])]

theorem gateway_body_reads_back : ∃ request text,
    (gateway.perform (.converse (.entries spoken)) (.lost "")).request = some request ∧
      request.body = some text ∧
      Json.readBytes? (Charset.encodeUtf8 text.toList) = some (.obj spokenWhole) := by
  have hable : (gateway.perform (.converse .nothing) (.lost "")).request.isSome := by
    decide +kernel
  obtain ⟨empty, able⟩ := Option.isSome_iff_exists.mp hable
  obtain ⟨p, hread, hadded, hwhole⟩ : ∃ p, Payload.read .conversation spoken = .accepted p ∧
      p.added = [.arr [.null, .obj [("b", .null), ("a", .int (-123456789012345678901234567890))]],
        .null, .obj [("n", .null)]] ∧
      p.whole .conversation spoken = spokenWhole := ⟨_, rfl, rfl, rfl⟩
  have hd : Json.Readable (.obj spoken) := by
    have hdigits : (Nat.toDigits 10 123456789012345678901234567890).length ≤ Text.maxDigits := by
      decide +kernel
    simp [spoken, Dict.keys, Json.readable_obj_iff, Json.readable_arr_iff, Json.readable_int_iff,
      Json.readable_null, Json.readable_str, hdigits]
  have hfloat : ∀ v ∈ p.added, v.Floatless := by
    have hnull : Json.Floatless .null := by
      intro x h
      cases h
    have hint (n : Int) : Json.Floatless (.int n) := by
      intro x h
      cases h
    rw [hadded]
    simp [Json.floatless_obj_iff, Json.floatless_arr_iff, hnull, hint]
  obtain ⟨-, hreads, hsent⟩ := Client.body_reads_back (c := gateway) rfl List.mem_cons_self hread
    hd hfloat (.lost "")
  rw [hwhole] at hreads
  obtain ⟨request, sent⟩ := hsent .nothing empty able
  obtain ⟨text, hbody, htext⟩ := hreads request sent
  exact ⟨request, text, sent, hbody, htext⟩

/-- Whether the body that is sent for an operation is read as `whole`. -/
def Client.ReadsBack (c : Client) (op : Operation) (whole : Dict Json) : Prop :=
  ∃ request text, (c.perform op (.lost "")).request = some request ∧ request.body = some text ∧
    Json.readBytes? (Charset.encodeUtf8 text.toList) = some (.obj whole)

/-- What says a whole number with one digit more than is read. -/
def enormous : Dict Json := [("x", .int (10 ^ Text.maxDigits))]

theorem not_readable_enormous : ¬Json.Readable (.obj enormous) := by
  intro h
  have hten : (10 : Int).natAbs = 10 := rfl
  have hdigits := Json.readable_int_iff.mp ((Json.readable_obj_iff.mp h).2 _ List.mem_cons_self)
  have hlt := (Nat.length_toDigits_le_iff (by decide) (by decide)).mp hdigits
  rw [Int.natAbs_pow, hten] at hlt
  exact Nat.lt_irrefl _ hlt

theorem read_added (n : Int) : ∃ p, Payload.read .logDeletion [("x", .int n)] = .accepted p ∧
    (∀ v ∈ p.added, v.Floatless) ∧ p.whole .logDeletion [("x", .int n)] = [("x", .int n)] := by
  refine ⟨_, rfl, fun v hv => ?_, rfl⟩
  obtain rfl := List.mem_singleton.mp hv
  rintro x ⟨⟩

/-- A record may fail to come back from its body: where the header for the token cannot be written
none is sent, and no document is read that holds a number with too many digits. -/
theorem body_not_read_back :
    (∃ p, Payload.read .logDeletion [("x", .int 1)] = .accepted p ∧
      (∀ v ∈ p.added, v.Floatless) ∧
      ¬accented.ReadsBack (.deleteLogs (.entries [("x", .int 1)]))
        (p.whole .logDeletion [("x", .int 1)])) ∧
    ∃ p, Payload.read .logDeletion enormous = .accepted p ∧ (∀ v ∈ p.added, v.Floatless) ∧
      ¬gateway.ReadsBack (.deleteLogs (.entries enormous)) (p.whole .logDeletion enormous) := by
  constructor
  · obtain ⟨p, hread, hfloat, -⟩ := read_added 1
    refine ⟨p, hread, hfloat, ?_⟩
    rintro ⟨request, -, sent, -⟩
    cases sent
  · obtain ⟨p, hread, hfloat, hwhole⟩ : ∃ p,
        Payload.read .logDeletion enormous = .accepted p ∧ (∀ v ∈ p.added, v.Floatless) ∧
          p.whole .logDeletion enormous = enormous := read_added _
    refine ⟨p, hread, hfloat, ?_⟩
    rw [hwhole]
    rintro ⟨_, _, -, -, h⟩
    exact not_readable_enormous (Json.readable_of_readBytes? h)

end ChatAudit.Api
