import ChatAudit.Proofs.Console.Conversation
import ChatAudit.Proofs.Console.DeleteAll

/-! The conversation over all runs: an exchange counts as a whole or not at all. -/
namespace ChatAudit.Console
open Panel

/-- A request for the next turn, what came back, and what the user had typed. -/
structure Chat where
  request : Api.Request
  reply : Api.Reply
  typed : String

namespace Chat

def outcome (c : Chat) : Except Api.Fault Summary :=
  (Api.Operation.converse .nothing).settle c.request c.reply

/-- Whether there was a reply, or a failure that callers are told of. -/
def isAnswered (c : Chat) : Bool :=
  match c.outcome with
  | .ok _ => true
  | .error (.failed _) => true
  | .error _ => false

def asked (c : Chat) : Turn := { role := "user", content := c.typed }

/-- What the exchange adds to the conversation. -/
def turns (c : Chat) : List Turn :=
  match c.outcome with
  | .ok reply => [c.asked, { role := "assistant", content := reply.summary }]
  | .error _ => []

/-- Whether the request holds these turns, each with its role and content, and no others. -/
def Carries (c : Chat) (turns : List Turn) : Prop :=
  ∃ wire : Dict Json, c.request.body = some (Json.obj wire).write ∧
    wire.lookup? "messages" = some (.arr (turns.map Turn.said))

theorem extras_of_mem_turns {c : Chat} {t : Turn} (h : t ∈ c.turns) : t.extras = [] := by
  unfold turns at h
  split at h
  · simp only [List.mem_cons, List.not_mem_nil, or_false] at h
    rcases h with rfl | rfl <;> rfl
  · cases h

/-- An exchange that was answered is kept as a whole or not at all. -/
theorem afterAnswer_eq {c : Chat} (h : c.isAnswered) (before : List Turn) :
    afterAnswer before (before ++ [c.asked]) (answerOf c.outcome) = before ++ c.turns := by
  rw [isAnswered] at h
  rw [turns]
  cases hend : c.outcome with
  | ok reply => simp [answerOf, afterAnswer]
  | error f =>
    rw [hend] at h
    cases f with
    | failed failure => simp [answerOf, afterAnswer]
    | _ => cases h

end Chat

/-- The exchanges about the next turn among requests of a run, of which `n` went before. -/
def chatsFrom (env : Env) (n : Nat) : List Api.Request → List Chat
  | [] => []
  | q :: qs =>
    if q.IsChat then ⟨q, env.gateway n, env.typed "ai_chat_input"⟩ :: chatsFrom env (n + 1) qs
    else chatsFrom env (n + 1) qs

/-- How exchanges take one conversation to another. -/
inductive Continues : List Turn → List Chat → List Turn → Prop
  | nil (before : List Turn) : Continues before [] before
  | cons {before after : List Turn} {chat : Chat} {chats : List Chat} : chat.typed ≠ "" →
      chat.Carries (before ++ [chat.asked]) → Continues (before ++ chat.turns) chats after →
      Continues before (chat :: chats) after

section Chats
variable {env : Env} {n : Nat} {qs qs' : List Api.Request} {before after last : List Turn}
  {chats chats' : List Chat}

theorem chatsFrom_append :
    chatsFrom env n (qs ++ qs') = chatsFrom env n qs ++ chatsFrom env (n + qs.length) qs' := by
  induction qs generalizing n with
  | nil => rfl
  | cons q qs ih =>
    have hlength : n + 1 + qs.length = n + (q :: qs).length := by
      rw [List.length_cons]
      omega
    rw [List.cons_append, chatsFrom, chatsFrom, ih, hlength]
    split_ifs <;> rfl

namespace Continues

theorem append (h : Continues before chats after) (h' : Continues after chats' last) :
    Continues before (chats ++ chats') last := by
  induction h with
  | nil before => exact h'
  | cons htyped hcarries _ ih => exact .cons htyped hcarries (ih h')

theorem eq_append (h : Continues before chats after) :
    after = before ++ chats.flatMap Chat.turns := by
  induction h with
  | nil before => simp
  | cons _ _ _ ih => rw [ih, List.flatMap_cons, List.append_assoc]

theorem extras (h : Continues before chats after) (hbefore : ∀ t ∈ before, t.extras = []) :
    ∀ t ∈ after, t.extras = [] := by
  rw [h.eq_append]
  intro t ht
  rcases List.mem_append.mp ht with hm | hm
  · exact hbefore t hm
  · obtain ⟨chat, -, hchat⟩ := List.mem_flatMap.mp hm
    exact Chat.extras_of_mem_turns hchat

/-- Each request carries what the exchanges before it have left, and the new turn. -/
theorem carries {chat : Chat} (h : Continues before (chats ++ chat :: chats') after) :
    chat.typed ≠ "" ∧
      chat.Carries (before ++ chats.flatMap Chat.turns ++ [chat.asked]) := by
  induction chats generalizing before with
  | nil =>
    cases h with
    | cons htyped hcarries _ => exact ⟨htyped, by simpa using hcarries⟩
  | cons c chats ih =>
    cases h with
    | cons _ _ hrest =>
      rw [List.flatMap_cons, ← List.append_assoc]
      exact ih hrest

end Continues
end Chats

/-- What lies between two screens of a run: requests, and the conversation that they make if all
exchanges are answered. -/
def Conversed (env : Env) (s t : Screen) : Prop :=
  ∃ later, t.requests = List.reverse later ++ s.requests ∧
    ((∀ turn ∈ s.state.history, turn.extras = []) →
      (∀ chat ∈ chatsFrom env s.requests.length later, chat.isAnswered) →
      Continues s.state.history (chatsFrom env s.requests.length later) t.state.history)

section Conversed
variable {env : Env} {s t u : Screen} {op : Api.Operation}

theorem conversed_of_quiet (later : List Api.Request)
    (hrequests : t.requests = later.reverse ++ s.requests)
    (hchats : ∀ n, chatsFrom env n later = []) (hhistory : t.state.history = s.state.history) :
    Conversed env s t := by
  refine ⟨later, hrequests, fun _ _ => ?_⟩
  rw [hchats, hhistory]
  exact .nil _

instance : Closed (Conversed env) where
  drawn h := conversed_of_quiet [] h.2 (fun _ => rfl) (congrArg State.history h.1)
  trans := by
    rintro s t u ⟨later, hrequests, hst⟩ ⟨later', hrequests', htu⟩
    have hlength : t.requests.length = s.requests.length + later.length := by
      rw [hrequests, List.length_append, List.length_reverse, Nat.add_comm]
    refine ⟨later ++ later', by rw [hrequests', hrequests]; simp, fun hextras hanswered => ?_⟩
    rw [chatsFrom_append, ← hlength] at hanswered ⊢
    -- the first stretch leaves turns without extras, so the second one can be sent as well
    have hfirst := hst hextras fun chat hm => hanswered chat (List.mem_append_left _ hm)
    exact hfirst.append (htu (hfirst.extras hextras)
      fun chat hm => hanswered chat (List.mem_append_right _ hm))

theorem conversed_store {change : State → State}
    (h : (change s.state).history = s.state.history) : Conversed env s (s.store change) :=
  conversed_of_quiet [] rfl (fun _ => rfl) h

theorem conversed_sent (hop : op.Other) (s : Screen) : Conversed env s (s.sent env op) := by
  cases hrequest : (env.client.perform op (env.gateway s.requests.length)).request with
  | none =>
    have hsent : s.sent env op = s := by simp [Screen.sent, hrequest]
    rw [hsent]
    exact Closed.drawn (.refl s)
  | some q =>
    have hchat := Api.Client.not_isChat hop hrequest
    rw [Screen.sent_of_request hrequest]
    exact conversed_of_quiet [q] rfl (fun n => by simp [chatsFrom, hchat]) rfl

/-- A text is an exchange of its own, once it is sent. -/
theorem conversed_of_text {query : Dict Json} {text context : String} {keyId : Option Int}
    {asked : List Turn} (hsends : env.Sends (.listMessages (.entries query)))
    (htyped : env.entered "ai_chat_input" = .str text) (htext : text ≠ "")
    (hasked : asked = s.state.history ++ [{ role := "user", content := text }])
    (hrequests : t.requests = (s.sent env (converse asked context keyId)).requests)
    (hhistory : t.state.history = afterAnswer s.state.history asked
      (answerOf (env.client.perform (converse asked context keyId)
        (env.gateway s.requests.length)).outcome)) : Conversed env s t := by
  have hplain (hextras : ∀ turn ∈ s.state.history, turn.extras = []) :
      ∀ turn ∈ asked, turn.extras = [] := by
    rw [hasked, List.forall_mem_append]
    exact ⟨hextras, by simp⟩
  cases hrequest : (env.client.perform (converse asked context keyId)
    (env.gateway s.requests.length)).request with
  | none =>
    have hsame : s.sent env (converse asked context keyId) = s := by simp [Screen.sent, hrequest]
    -- beside logs that were sent for, this cannot be
    refine ⟨[], by rw [hrequests, hsame]; rfl, fun hextras => ?_⟩
    obtain ⟨q, -, hq, -⟩ := sent_converse hsends (hplain hextras) context keyId
      (env.gateway s.requests.length)
    rw [hrequest] at hq
    cases hq
  | some q =>
    let chat : Chat := ⟨q, env.gateway s.requests.length, text⟩
    have hchats : chatsFrom env s.requests.length [q] = [chat] := by
      simp [chatsFrom, Api.Client.isChat_of_converse hrequest, Env.typed, htyped, chat]
    have houtcome : (env.client.perform (converse asked context keyId)
        (env.gateway s.requests.length)).outcome = chat.outcome :=
      Api.Client.outcome_of_sent hrequest
    refine ⟨[q], by rw [hrequests, Screen.sent_of_request hrequest]; rfl,
      fun hextras hanswered => ?_⟩
    rw [hchats] at hanswered ⊢
    obtain ⟨q', wire, hq', hbody, hperm⟩ := sent_converse hsends (hplain hextras) context keyId
      (env.gateway s.requests.length)
    obtain rfl : q = q' := Option.some.inj (hrequest.symm.trans hq')
    have hafter : t.state.history = s.state.history ++ chat.turns := by
      rw [hhistory, houtcome, hasked]
      exact Chat.afterAnswer_eq (hanswered chat List.mem_cons_self) _
    rw [hafter]
    exact .cons htext ⟨wire, hbody, by rw [messages_of_perm hperm, hasked]; rfl⟩ (.nil _)

theorem keeps_conversation {query : Dict Json} (hsends : env.Sends (.listMessages (.entries query)))
    (context : String) (keyId : Option Int) :
    Keeps env (Conversed env) (conversation context keyId) fun _ => True := by
  refine fun s => ⟨?_, fun _ _ => trivial⟩
  by_cases h : ∃ text, env.entered "ai_chat_input" = .str text ∧ text ≠ ""
  · obtain ⟨text, htyped, htext⟩ := h
    have hends : Ends env s (conversation context keyId) _ _ :=
      ends_conversation_of_text htyped htext rfl rfl
    have hrequests : (s.sent env (converse (s.state.history ++
      [{ role := "user", content := text }]) context keyId)).requests = _ := rfl
    refine Closed.trans ?_ (Closed.drawn (hends s (.refl s)).2)
    exact conversed_of_text hsends htyped htext rfl hrequests rfl
  · have hblank : ∀ text, env.entered "ai_chat_input" = .str text → text = "" :=
      fun text htyped => not_not.mp fun htext => h ⟨text, htyped, htext⟩
    obtain ⟨r, hends⟩ := ends_conversation_of_blank (s := s) hblank context keyId
    exact Closed.drawn (hends s (.refl s)).2

/-- Without a selection nothing else touches the conversation. -/
theorem permits_conversed (hselect : ∀ id, ¬env.pressed ("session_" ++ id)) :
    Permits env (Conversed env) where
  init _ := conversed_store rfl
  set_values _ _ := conversed_store rfl
  ask_listApiKeys := conversed_sent trivial
  set_apiKeys _ _ := conversed_store rfl
  ask_statistics _ := conversed_sent trivial
  ask_listSessions _ := conversed_sent trivial
  select h := absurd h (hselect _)
  ask_deleteSession _ := conversed_sent trivial
  ask_deleteSelected _ _ := conversed_sent trivial
  ask_deleteAll _ _ _ := conversed_sent trivial
  ask_listMessages _ := conversed_sent trivial
  ask_summarize _ _ := conversed_sent trivial
  set_summary _ _ := conversed_store rfl
  converse := keeps_conversation
  ask_exportSessions _ _ := conversed_sent trivial
  set_sessionsExport _ _ := conversed_store rfl
  ask_exportLogs _ _ := conversed_sent trivial
  set_logsExport _ _ := conversed_store rfl
  ask_deleteLogs _ _ _ := conversed_sent trivial

end Conversed

/-- The exchanges about the next turn in a run, in their order. -/
def Screen.chats (env : Env) (s : Screen) : List Chat := chatsFrom env 0 s.requests.reverse

/-- The state that runs of the page leave one after another. -/
def runs (state : State) : List Env → State
  | [] => state
  | env :: envs => runs (run page env state).2.state envs

/-- The exchanges about the next turn in all runs. -/
def chatsOf (state : State) : List Env → List Chat
  | [] => []
  | env :: envs =>
    (run page env state).2.chats env ++ chatsOf (run page env state).2.state envs

section Runs
variable {env : Env} {envs : List Env} {state : State}

theorem continues_run (hselect : ∀ id, ¬env.pressed ("session_" ++ id))
    (hextras : ∀ turn ∈ state.history, turn.extras = [])
    (hanswered : ∀ chat ∈ (run page env state).2.chats env, chat.isAnswered) :
    Continues state.history ((run page env state).2.chats env)
      (run page env state).2.state.history := by
  obtain ⟨later, hrequests, hcontinues⟩ := ((permits_conversed hselect).keeps_page { state }).1
  have hlater : (run page env state).2.requests.reverse = later := by
    rw [run_eq_exec, hrequests]
    simp
  rw [Screen.chats, hlater] at hanswered ⊢
  exact hcontinues hextras hanswered

theorem continues_runs (hselect : ∀ env ∈ envs, ∀ id, ¬env.pressed ("session_" ++ id))
    (hextras : ∀ turn ∈ state.history, turn.extras = [])
    (hanswered : ∀ chat ∈ chatsOf state envs, chat.isAnswered) :
    Continues state.history (chatsOf state envs) (runs state envs).history := by
  induction envs generalizing state with
  | nil => exact .nil _
  | cons env envs ih =>
    have hfirst := continues_run (hselect env List.mem_cons_self) hextras
      fun chat hm => hanswered chat (List.mem_append_left _ hm)
    exact hfirst.append (ih (fun env hm => hselect env (List.mem_cons_of_mem _ hm))
      (hfirst.extras hextras) fun chat hm => hanswered chat (List.mem_append_right _ hm))

/-- Whether the user and the assistant take turns, the user first. -/
def Alternates (turns : List Turn) : Prop :=
  ∀ i turn, turns[i]? = some turn → turn.role = if i % 2 = 0 then "user" else "assistant"

theorem alternates_flatMap (chats : List Chat) :
    (chats.flatMap Chat.turns).length % 2 = 0 ∧ Alternates (chats.flatMap Chat.turns) := by
  induction chats with
  | nil => exact ⟨rfl, nofun⟩
  | cons chat chats ih =>
    rw [List.flatMap_cons, Chat.turns]
    cases chat.outcome with
    | error f => exact ih
    | ok reply =>
      have heven := ih.1
      constructor
      · simp only [List.length_append, List.length_cons, List.length_nil]
        omega
      intro i turn hturn
      match i, hturn with
      | 0, hturn =>
        obtain rfl := Option.some.inj hturn
        rfl
      | 1, hturn =>
        obtain rfl := Option.some.inj hturn
        rfl
      | i + 2, hturn =>
        rw [Nat.add_mod_right]
        exact ih.2 i turn hturn

end Runs

/-- A page with one log. -/
def oneLog : Api.Reply := .response ⟨200, [], Charset.encodeUtf8
  ("\x7b\"items\":[\x7b\"id\":1,\"session_id\":\"a1\",".toList ++
    "\"created_at\":\"2026-10-18T00:00:00Z\"\x7d],\"total\":1\x7d".toList)⟩

/-- A user who says something about the selected session, and what comes back. -/
def talk (typed : String) (reply : Api.Reply) : Env where
  client := Api.gateway
  settings := .ofEnvironment []
  now := firstMoment
  widgets := [("ai_chat_input", .str typed)]
  gateway n :=
    if n = 3 then oneLog
    else if n = 4 then reply
    else .lost ""

def selected : State := { values := [("current_session_id", .str "s1")], turns := some [] }

def greeting : List Env := [
  talk "hi" (.response ⟨200, [], Charset.encodeUtf8 "\x7b\"summary\":\"ok\"\x7d".toList⟩),
  talk "and" (.lost "down")]

theorem not_pressed_talk (typed id : String) (reply : Api.Reply) :
    ¬(talk typed reply).pressed ("session_" ++ id) := by
  have hkey : "session_" ++ id ≠ "ai_chat_input" := by
    intro heq
    have htake := congrArg (fun s : String => s.toList.take 1) heq
    simp at htake
  have hnone : (talk typed reply).widgets.lookup? ("session_" ++ id) = none :=
    Dict.lookup?_eq_none_iff.mpr fun hm => hkey (by simpa [talk, Dict.keys] using hm)
  rw [Env.pressed, Env.entered, hnone]
  exact Bool.false_ne_true

end ChatAudit.Console
