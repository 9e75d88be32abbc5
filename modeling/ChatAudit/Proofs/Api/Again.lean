import ChatAudit.Proofs.Api.Body
import ChatAudit.Proofs.Api.Outcome
import ChatAudit.Proofs.Payload.Again

/-! A record that is checked already and the entries it is sent as make the same request. -/
namespace ChatAudit.Api

variable {form : Payload.Form}

/-- Arguments with the same wire form make the same request. -/
theorem request_eq_of_resolve {op : Argument → Operation} (hop : op ∈ Operation.taking form)
    {a b : Argument} (h : a.resolve form = b.resolve form) (c : Client) (reply : Reply) :
    (c.perform (op a) reply).request = (c.perform (op b) reply).request := by
  obtain ⟨build, hbuild⟩ := call_of_taking hop
  have hcall : (op a).call = (op b).call := by
    rw [hbuild, hbuild, h]
  have hsent : ∀ request, (c.perform (op a) reply).request = some request ↔
      (c.perform (op b) reply).request = some request := by
    intro request
    rw [Client.sent_iff, Client.sent_iff, hcall]
  exact Option.ext hsent

/-- What is sent for a request can be read as one again, and is then sent as it is unless one of the
caller's own entries was lost. So it does not matter whether an operation is given the record or its
entries. -/
theorem wire_again (form : Payload.Form) (d : Dict Json) (p : Payload)
    (h : Payload.read form d = .accepted p) (hone : ¬(d.has "q" ∧ d.has "query")) :
    ∃ again, Payload.read form p.wire = .accepted again ∧ (again.wire = p.wire ↔ p.Intact) ∧
      ∀ op ∈ Operation.taking form, ∀ (c : Client) (reply : Reply),
        (c.perform (op (.entries d)) reply).request =
            (c.perform (op (.wire p.wire)) reply).request ∧
          (p.Intact → (c.perform (op (.entries p.wire)) reply).request =
            (c.perform (op (.wire p.wire)) reply).request) := by
  have hagain := (Payload.sound_of_read h hone).read_wire
  refine ⟨p.resent, hagain, Payload.resent_wire_iff, ?_⟩
  intro op hop c reply
  constructor
  · have hresolve : (Argument.entries d).resolve form = (Argument.wire p.wire).resolve form :=
      resolve_of_accepted h
    exact request_eq_of_resolve hop hresolve c reply
  · intro hintact
    have hresolve : (Argument.entries p.wire).resolve form = (Argument.wire p.wire).resolve form := by
      rw [resolve_of_accepted hagain, Payload.resent_wire_iff.mpr hintact]
      rfl
    exact request_eq_of_resolve hop hresolve c reply

/-- A number, an instant and the keyword given in other ways than they are sent. -/
def loose : Dict Json :=
  [("x", .int 1), ("start_time", .int 0), ("page", .str " 2 "), ("query", .str "b")]

/-- What is sent for them. -/
def strict : Dict Json :=
  [("page", .int 2), ("start_time", .str "1970-01-01T00:00:00Z"), ("q", .str "b"), ("x", .int 1)]

theorem strict_again :
    (∃ again, Payload.read .sessions strict = .accepted again ∧ again.wire = strict) ∧
      (gateway.perform (.listSessions (.entries strict)) (.lost "")).request =
        (gateway.perform (.listSessions (.wire strict)) (.lost "")).request := by
  have hone : ¬(loose.has "q" ∧ loose.has "query") := by
    rintro ⟨hq, -⟩
    cases hq
  obtain ⟨p, hread, hintact, hwire⟩ : ∃ p, Payload.read .sessions loose = .accepted p ∧
      p.Intact ∧ p.wire = strict :=
    ⟨_, rfl, Payload.resent_wire_iff.mp rfl, rfl⟩
  obtain ⟨again, hagain, hsame, hrequest⟩ := wire_again .sessions loose p hread hone
  rw [hwire] at hagain hsame hrequest
  constructor
  · exact ⟨again, hagain, hsame.mpr hintact⟩
  · exact (hrequest .listSessions List.mem_cons_self gateway (.lost "")).2 hintact

/-- Filters for messages as they are sent. -/
def ofMessages : Dict Json := [("session_id", .str "s"), ("page", .int 1)]

/-- Entries do not always stand for their record. A number that is too large for a double is lost, as
null is sent for it and nothing for null; and an operation that takes another record sends them in
the order of its own fields. -/
theorem entries_not_record :
    Json.read? "1e999".toList = some (.float (.infinite false)) ∧
    (Payload.read .logs [("x", .float (.infinite false))]).map Payload.wire =
      .accepted [("x", .null)] ∧
    (Payload.read .logs [("x", .null)]).map Payload.wire = .accepted [] ∧
    (Payload.read .messages ofMessages).map Payload.wire = .accepted ofMessages ∧
    (gateway.perform (.listSessions (.wire ofMessages)) (.lost "")).request.map (·.url.text) =
      some "http://gateway.test/api/v1/admin/security/sessions?session_id=s&page=1" ∧
    (gateway.perform (.listSessions (.entries ofMessages)) (.lost "")).request.map (·.url.text) =
      some "http://gateway.test/api/v1/admin/security/sessions?page=1&session_id=s" :=
  ⟨rfl, rfl, rfl, rfl, rfl, rfl⟩

end ChatAudit.Api
