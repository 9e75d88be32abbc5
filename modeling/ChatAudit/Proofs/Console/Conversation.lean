import ChatAudit.Proofs.Api.Chat
import ChatAudit.Proofs.Console.Effects

/-! What a run does to the conversation with the assistant. -/
namespace ChatAudit

/-- What is sent for a turn that says nothing but its content. -/
def Turn.said (t : Turn) : Json := .obj [("role", .str t.role), ("content", .str t.content)]

theorem Turn.obj_wire {t : Turn} (h : t.extras = []) : Json.obj t.wire = t.said := by
  rw [wire, h]
  rfl

end ChatAudit

namespace ChatAudit.Console
open Panel

variable {env : Env} {context : String} {keyId : Option Int}

/-- The conversation so far. -/
def State.history (s : State) : List Turn := s.turns.getD []

def State.withHistory (turns : List Turn) (s : State) : State := { s with turns := some turns }

/-- The request for the next turn. -/
abbrev converse (turns : List Turn) (context : String) (keyId : Option Int) : Api.Operation :=
  .converse (.entries (conversationBody turns context keyId))

section Request

/-- What is posted for the next turn: all turns, the logs that they are about unless there are none,
and the key that was chosen. -/
def conversationWire (turns : List Turn) (context : String) (keyId : Option Int) : Dict Json :=
  ("messages", .arr (turns.map Turn.said)) ::
    ((if context = "" then [] else [("context", .str context)]) ++ idEntry "ai_api_key_id" keyId)

theorem nodup_conversationWire (turns : List Turn) (context : String) (keyId : Option Int) :
    (conversationWire turns context keyId).keys.Nodup := by
  unfold conversationWire
  split_ifs <;> cases keyId <;> simp [Dict.keys, idEntry]

theorem fits_conversationBody {turns : List Turn} (h : ∀ t ∈ turns, t.extras = [])
    (context : String) (keyId : Option Int) : Payload.Fits .conversation
      (conversationBody turns context keyId) (conversationWire turns context keyId) := by
  have hcontext : Payload.Fits .conversation
      [("context", if context == "" then .null else .str context)]
      (if context = "" then [] else [("context", .str context)]) := by
    by_cases hblank : context = ""
    · simp only [hblank, beq_self_eq_true, if_true]
      exact .cons_null (by decide) .nil
    · simp only [hblank, beq_iff_eq, if_false]
      exact .cons (by decide) (fun _ hf => Payload.sends_text hf context) .nil
  have hsaid : (turns.map fun t => Json.obj t.wire) = turns.map Turn.said :=
    List.map_congr_left fun t ht => Turn.obj_wire (h t ht)
  exact .cons (by decide) (fun _ hf => hsaid ▸ Payload.sends_turns hf h)
    (hcontext.append (fits_id (by decide) (by decide) keyId))

/-- A conversation is posted with all its turns. -/
theorem posts_converse {turns : List Turn} (h : ∀ t ∈ turns, t.extras = [])
    (context : String) (keyId : Option Int) :
    ∃ wire, (converse turns context keyId).Posts "/ai-chat" wire ∧
      wire.Perm (conversationWire turns context keyId) := by
  have hnodup : ["messages", "context", "ai_api_key_id"].Nodup := by decide
  have hdefaults : ∀ f ∈ Payload.Form.fields .conversation, f.default.isSome →
      f.key ∈ ["messages", "context", "ai_api_key_id"] := by decide
  have halternatives : ∀ f ∈ Payload.Form.fields .conversation, f.alternative = none := by decide
  have hplain : Payload.Plain .conversation (conversationBody turns context keyId) :=
    ⟨hnodup, hdefaults, fun f hf a ha => by rw [halternatives f hf] at ha; cases ha⟩
  have hop : (converse turns context keyId).call =
      Api.Operation.post "/ai-chat" .conversation (.entries _) := rfl
  exact Api.posts_of_fits hop (fits_conversationBody h context keyId) hplain

theorem messages_of_perm {wire : Dict Json} {turns : List Turn}
    (h : wire.Perm (conversationWire turns context keyId)) :
    wire.lookup? "messages" = some (.arr (turns.map Turn.said)) := by
  have hkeys : wire.keys.Nodup :=
    (h.map Prod.fst).nodup_iff.mpr (nodup_conversationWire turns context keyId)
  exact (Dict.lookup?_eq_some_iff hkeys).mpr (h.mem_iff.mpr List.mem_cons_self)

/-- Where logs can be asked for, the next turn can be, and the request holds all turns. -/
theorem sent_converse {query : Dict Json} {turns : List Turn}
    (hsends : env.Sends (.listMessages (.entries query))) (h : ∀ t ∈ turns, t.extras = [])
    (context : String) (keyId : Option Int) (reply : Api.Reply) :
    ∃ (request : Api.Request) (wire : Dict Json),
      (env.client.perform (converse turns context keyId) reply).request = some request ∧
      request.body = some (Json.obj wire).write ∧
      wire.Perm (conversationWire turns context keyId) := by
  obtain ⟨_, hsent⟩ := hsends
  obtain ⟨wire, hposts, hperm⟩ := posts_converse h context keyId
  obtain ⟨request, hrequest, hbody⟩ := Api.Client.converse_sent (hsent reply) hposts
  exact ⟨request, wire, hrequest, hbody, hperm⟩

end Request

section Ends
variable {s t : Screen}

/-- What becomes of a request for the next turn. -/
theorem ends_askAssistant (turns : List Turn) (context : String) (keyId : Option Int) :
    Ends env s (askAssistant turns context keyId)
      ((answerOf (env.client.perform (converse turns context keyId)
        (env.gateway s.requests.length)).outcome).map
          fun answer => answer.toOption.map Summary.summary)
      (s.sent env (converse turns context keyId)) := by
  have hask : Ends env s (ask (converse turns context keyId)) _ _ := .ask _
  refine .draw (Draws.container _ _ _) fun spinner _ => .within _ ?_
  rcases hanswer : answerOf (env.client.perform (converse turns context keyId)
    (env.gateway s.requests.length)).outcome with stop | f | reply
  · rw [hanswer] at hask
    exact .stop hask
  · rw [hanswer] at hask
    exact .bind hask (.draw (Draws.write _ _) fun _ _ => .pure _)
  · rw [hanswer] at hask
    exact .bind hask (.pure _)

theorem userTurn_str (text : String) :
    userTurn (.str text) = pure { role := "user", content := text } := rfl

theorem userTurn_of_ne {v : Json} (h : ∀ text, v ≠ .str text) :
    ∃ issues, userTurn v = fail (.turn issues) := by
  cases v with
  | str text => exact absurd rfl (h text)
  | _ => exact ⟨_, rfl⟩

theorem ends_setTurns (turns : List Turn) :
    Ends env s (setTurns turns) (.ok ()) (s.store (.withHistory turns)) := .store _

theorem ends_conversation_of_absent (h : (env.entered "ai_chat_input").present = false)
    (context : String) (keyId : Option Int) :
    Ends env s (conversation context keyId) (.ok ()) s := by
  refine .bind .getState ?_
  refine .draw (Draws.forM fun t _ => draws_showTurn t) fun _ _ => ?_
  refine .draw (Draws.post _) fun _ _ => .draw (Draws.input _) fun v hv => ?_
  rw [hv, h]
  exact .pure _

/-- What is present and no text cannot become a turn. -/
theorem ends_conversation_of_ne (hpresent : (env.entered "ai_chat_input").present = true)
    (h : ∀ text, env.entered "ai_chat_input" ≠ .str text) (context : String)
    (keyId : Option Int) : ∃ issues,
      Ends env s (conversation context keyId) (.error (.fault (.turn issues))) s := by
  obtain ⟨issues, hissues⟩ := userTurn_of_ne h
  refine ⟨issues, .bind .getState ?_⟩
  refine .draw (Draws.forM fun t _ => draws_showTurn t) fun _ _ => ?_
  refine .draw (Draws.post _) fun _ _ => .draw (Draws.input _) fun v hv => ?_
  rw [hv, hpresent, if_pos rfl, hissues]
  exact .stop fun s' hs => ⟨rfl, hs⟩

/-- Without a text nothing happens. -/
theorem ends_conversation_of_blank (h : ∀ text, env.entered "ai_chat_input" = .str text → text = "")
    (context : String) (keyId : Option Int) :
    ∃ r, Ends env s (conversation context keyId) r s := by
  cases hpresent : (env.entered "ai_chat_input").present with
  | false => exact ⟨_, ends_conversation_of_absent hpresent context keyId⟩
  | true =>
    have hne (text : String) : env.entered "ai_chat_input" ≠ .str text := by
      intro heq
      rw [heq, h text heq] at hpresent
      cases hpresent
    obtain ⟨issues, hends⟩ := ends_conversation_of_ne hpresent hne context keyId
    exact ⟨_, hends⟩

/-- The state after a reply, a failure or a fault. -/
def afterAnswer (before asked : List Turn) :
    Except Stop (Except Api.Failure Summary) → List Turn
  | .ok (.ok reply) => asked ++ [{ role := "assistant", content := reply.summary }]
  | .ok (.error _) => before
  | .error _ => asked

/-- Up to the request nothing depends on what comes back. -/
theorem ends_conversation_of_rest {text : String} {asked : List Turn} {r : Except Stop Unit}
    (htyped : env.entered "ai_chat_input" = .str text) (htext : text ≠ "")
    (hasked : asked = s.state.history ++ [{ role := "user", content := text }])
    (hrest : ∀ c, Ends env (s.store (.withHistory asked)) (do
      let reply ← within c do
        let reply ← askAssistant asked context keyId
        match reply with
        | some text => write "markdown" [text]
        | none => setTurns s.state.history
        return reply
      if let some text := reply then
        setTurns (asked ++ [{ role := "assistant", content := text }])) r t) :
    Ends env s (conversation context keyId) r t := by
  have hpresent : (Json.str text).present = true := by simp [Json.present, htext]
  have hlast : asked.getLast? = some { role := "user", content := text } := by
    rw [hasked, List.getLast?_concat]
  refine .bind .getState ?_
  refine .draw (Draws.forM fun t _ => draws_showTurn t) fun _ _ => ?_
  refine .draw (Draws.post _) fun _ _ => .draw (Draws.input _) fun v hv => ?_
  rw [hv, htyped, hpresent, if_pos rfl, userTurn_str, pure_bind]
  dsimp only
  rw [← State.history, ← hasked, hlast]
  refine .bind (ends_setTurns asked) (.draw (draws_showTurn _) fun _ _ => ?_)
  exact .draw (Draws.container _ _ _) fun c _ => hrest c

/-- A text asks for the next turn. -/
theorem ends_conversation_of_text {text : String} {asked : List Turn}
    {answer : Except Stop (Except Api.Failure Summary)}
    (htyped : env.entered "ai_chat_input" = .str text) (htext : text ≠ "")
    (hasked : asked = s.state.history ++ [{ role := "user", content := text }])
    (hanswer : answerOf (env.client.perform (converse asked context keyId)
      (env.gateway s.requests.length)).outcome = answer) :
    Ends env s (conversation context keyId) (answer.map fun _ => ())
      ((s.sent env (converse asked context keyId)).store
        (.withHistory (afterAnswer s.state.history asked answer))) := by
  have hreply : Ends env (s.store (.withHistory asked)) (askAssistant asked context keyId) _ _ :=
    ends_askAssistant asked context keyId
  have hlength : (s.store (.withHistory asked)).requests.length = s.requests.length := rfl
  -- the turn is stored before it is sent
  have hdrawn (turns : List Turn) : ((s.sent env (converse asked context keyId)).store
      (.withHistory turns)).Drawn (((s.store (.withHistory asked)).sent env
        (converse asked context keyId)).store (.withHistory turns)) := by
    refine ⟨?_, Screen.requests_sent rfl⟩
    simp only [Screen.store, Screen.state_sent]
    rfl
  rw [hlength, hanswer] at hreply
  rcases answer with stop | f | reply
  · refine .of_drawn (ends_conversation_of_rest htyped htext hasked
      fun c => .stop (.within _ (.stop hreply))) ⟨?_, Screen.requests_sent rfl⟩
    simp only [Screen.store, Screen.state_sent]
    rfl
  · refine .of_drawn (ends_conversation_of_rest htyped htext hasked
      fun c => .bind (.within _ (.bind hreply (.bind (ends_setTurns s.state.history) (.pure _))))
        (.pure _)) (hdrawn _)
  · refine .of_drawn (ends_conversation_of_rest htyped htext hasked
      fun c => .bind (.within _ (.bind hreply (.draw (Draws.write _ _) fun _ _ => .pure _)))
        (ends_setTurns _)) (hdrawn _)

end Ends
end ChatAudit.Console
