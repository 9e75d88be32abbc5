import ChatAudit.Proofs.Api.Resource

/-! Which requests continue a conversation, and when they can be sent. -/
namespace ChatAudit.Api
open Text

/-- Where conversations are continued, below the base address. -/
def chatPath : List Char := "admin/security/ai-chat".toList

/-- Whether a request is for the next turn of a conversation. -/
def Request.IsChat (request : Request) : Prop :=
  request.method = "POST" ∧ chatPath <:+ request.url.target

instance : DecidablePred Request.IsChat := fun _ => inferInstanceAs (Decidable (_ ∧ _))

/-- Whether an operation has nothing to do with conversations. -/
def Operation.Other : Operation → Prop
  | .converse _ | .plain _ => False
  | _ => True

variable {c : Client} {request : Request} {reply reply' : Reply} {argument : Argument}
  {wire : Dict Json} {op : Operation}

theorem isChat_iff : request.IsChat ↔ request.PostsTo "/ai-chat" := by
  have hpath : resourcePath "/ai-chat" = chatPath := by decide
  rw [Request.PostsTo, hpath]
  rfl

namespace Client

theorem isChat_of_converse
    (sent : (c.perform (.converse argument) reply).request = some request) : request.IsChat :=
  isChat_iff.mpr (postsTo_of_sent rfl sent)

/-- No other operation looks like one that continues a conversation. -/
theorem not_isChat (hop : op.Other) (sent : (c.perform op reply).request = some request) :
    ¬request.IsChat := by
  intro h
  have hknown : op.Known := by
    cases op with
    | plain _ => cases hop
    | _ => trivial
  have hresource := resource_of_postsTo hknown (by decide) sent (isChat_iff.mp h)
  cases op with
  | converse _ => cases hop
  | deleteSessions _ | deleteLogs _ | summarize _ =>
    exact absurd (Option.some.inj hresource) (by decide)
  | _ => cases hresource

/-- Where the logs of a session can be asked for, a conversation about them can be continued. -/
theorem converse_sent (sent : (c.perform (.listMessages argument) reply).request = some request)
    (hposts : op.Posts "/ai-chat" wire) : ∃ request',
      (c.perform op reply').request = some request' ∧
        request'.body = some (Json.obj wire).write := by
  obtain ⟨call, hcall, hreq⟩ := sent_iff.mp sent
  obtain ⟨-, hpath⟩ := Operation.get_eq_ok hcall
  obtain ⟨u, base, bearer, url, -, hu, hbase, hbearer, hurl, -, -⟩ := request_eq_ok_iff.mp hreq
  have hmessages : (Operation.root ++ "/messages").toList =
      '/' :: 'a' :: "dmin/security/messages".toList := by decide
  have hchat : (Operation.root ++ "/ai-chat").toList =
      '/' :: 'a' :: "dmin/security/ai-chat".toList := by decide
  have hrooted : Url.Rooted ('a' :: "dmin/security/messages".toList) :=
    rooted_of_all (by decide : _ = "admin".toList ++ '/' :: "security/messages".toList)
      (by decide) (by decide)
  rw [urlOf_of_rooted (hpath ▸ hmessages) hrooted] at hurl
  split_ifs at hurl
  obtain ⟨v, hv, -⟩ := bind_eq_ok.mp hurl
  obtain ⟨v', hv'⟩ := Url.withTarget_of_length (Url.target_ne_nil base) hv (by decide) (by decide)
    (by decide : "dmin/security/ai-chat".toList.length ≤ "dmin/security/messages".toList.length)
  obtain ⟨hop, hbody⟩ := hposts
  have hshort : ¬Url.maxLength < (Operation.root ++ "/ai-chat").toList.length := by decide
  have hurl' : urlOf base ⟨"POST", Operation.root ++ "/ai-chat", none, some wire, false⟩ =
      .ok v' := by
    have hrooted' : Url.Rooted ('a' :: "dmin/security/ai-chat".toList) :=
      rooted_of_all (by decide : _ = "admin".toList ++ '/' :: "security/ai-chat".toList)
        (by decide) (by decide)
    rw [urlOf_of_rooted hchat hrooted', if_neg hshort]
    exact bind_eq_ok.mpr ⟨v', hv', rfl⟩
  refine ⟨_, sent_iff.mpr ⟨_, hop, request_eq_ok_iff.mpr
    ⟨u, base, bearer, v', some (Json.obj wire).write, hu, hbase, hbearer, hurl', ?_, rfl⟩⟩, rfl⟩
  simp only [Option.mapM_some, hbody]
  rfl

end Client
end ChatAudit.Api
