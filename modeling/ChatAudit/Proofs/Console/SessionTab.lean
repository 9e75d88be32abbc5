import ChatAudit.Proofs.Console.Core
import ChatAudit.Proofs.Console.Reaches

/-! The tab of the selected session: its logs, a summary, and the conversation about them. -/
namespace ChatAudit.Console
open Api Panel

section Courses
variable (env : Env) (keys : List ApiKey)

/-- The operation that the tab of a session starts with. -/
abbrev messagesOf (id : Json) : Operation :=
  .listMessages (.entries [("session_id", id), ("page_size", .int env.settings.messagesPageSize)])

abbrev summaryOf (id : Json) (keyId : Option Int) : Operation :=
  .summarize (.entries [("session_id", id), ("ai_api_key_id", ofId keyId)])

/-- The key that the user chose for the assistant. -/
def Env.assistantKey : Option Int :=
  env.chosenKey "ai_api_key" "Server default" (keys.filter (·.status == "active"))

/-- Whether the tab of a session is open with its logs. -/
structure Shows (s : Screen) (logs : Page Log) (t : Screen) : Prop where
  present : s.state.core.current.present = true
  answer : env.answer (messagesOf env s.state.core.current) s = .ok (.ok logs)
  screen : ∃ choice, t = (s.sent env (messagesOf env s.state.core.current)).store
    (·.put "ai_api_key" (.str choice))

/-- How a summary of a session is asked for. -/
inductive Summarizing (id : Json) (keyId : Option Int) (s : Screen) :
    Except Stop Unit → Screen → Prop
  | idle : Summarizing id keyId s (.ok ()) s
  | lost {e : Stop} (h : env.answer (summaryOf id keyId) s = .error e) :
    Summarizing id keyId s (.error e) (s.sent env (summaryOf id keyId))
  | refused {f : Failure} (h : env.answer (summaryOf id keyId) s = .ok (.error f)) :
    Summarizing id keyId s (.ok ()) (s.sent env (summaryOf id keyId))
  | summarized {summary : Summary} (h : env.answer (summaryOf id keyId) s = .ok (.ok summary)) :
    Summarizing id keyId s (.ok ()) ((s.sent env (summaryOf id keyId)).store fun st =>
      { st with summary := some (some summary) })

/-- How the next turn of the conversation goes. -/
inductive Talking (context : String) (keyId : Option Int) (s : Screen) :
    Except Stop Unit → Screen → Prop
  | silent : Talking context keyId s (.ok ()) s
  | noText {issues : List Record.Issue}
    (hpresent : (env.entered "ai_chat_input").present = true)
    (h : ∀ text, env.entered "ai_chat_input" ≠ .str text) :
    Talking context keyId s (.error (.fault (.turn issues))) s
  | said {text : String} {asked : List Turn} {answer : Except Stop (Except Failure Summary)}
    (htyped : env.entered "ai_chat_input" = .str text) (htext : text ≠ "")
    (hasked : asked = s.state.history ++ [{ role := "user", content := text }])
    (hanswer : env.answer (converse asked context keyId) s = answer) :
    Talking context keyId s (answer.map fun _ => ())
      ((s.sent env (converse asked context keyId)).store
        (.withHistory (afterAnswer s.state.history asked answer)))

/-- How the tab of the selected session goes. -/
inductive Detailing (s : Screen) : Except Stop Unit → Screen → Prop
  | unselected (h : s.state.core.current.present = false) : Detailing s (.ok ()) s
  | lost {e : Stop} (hpresent : s.state.core.current.present = true)
    (h : env.answer (messagesOf env s.state.core.current) s = .error e) :
    Detailing s (.error e) (s.sent env (messagesOf env s.state.core.current))
  | refused {f : Failure} (hpresent : s.state.core.current.present = true)
    (h : env.answer (messagesOf env s.state.core.current) s = .ok (.error f)) :
    Detailing s (.ok ()) (s.sent env (messagesOf env s.state.core.current))
  | unsummarized {logs : Page Log} {t u : Screen} {e : Stop} (hshows : Shows env s logs t)
    (h : Summarizing env s.state.core.current (env.assistantKey keys) t (.error e) u) :
    Detailing s (.error e) u
  | shift {logs : Page Log} {t u : Screen} {f : Timestamp.ShiftFault} (hshows : Shows env s logs t)
    (h : Summarizing env s.state.core.current (env.assistantKey keys) t (.ok ()) u)
    (hshift : transcript env.zone logs.items = .error f) :
    Detailing s (.error (.fault (.shift f))) u
  | talking {logs : Page Log} {t u v : Screen} {context : String} {r : Except Stop Unit}
    (hshows : Shows env s logs t)
    (h : Summarizing env s.state.core.current (env.assistantKey keys) t (.ok ()) u)
    (hcontext : transcript env.zone logs.items = .ok context)
    (htalk : Talking env context (env.assistantKey keys) u r v) : Detailing s r v

end Courses

section Cores
variable {env : Env} {s t : Screen}

/-- Opening the tab changes nothing of the core. -/
theorem core_of_shows {logs : Page Log} (h : Shows env s logs t) :
    t.state.core = s.state.core := by
  obtain ⟨choice, rfl⟩ := h.screen
  have hapart : State.Apart "ai_api_key" := by decide
  rw [Screen.store, State.core_put_of_apart hapart, core_sent]

/-- A summary is all that a press of the button changes. -/
theorem core_of_summarizing {id : Json} {keyId : Option Int} {r : Except Stop Unit}
    (h : Summarizing env id keyId s r t) :
    t.state.core = { s.state.core with summary := t.state.core.summary } := by
  cases h with
  | idle => rfl
  | lost | refused => rw [core_sent]
  | summarized => rw [core_summarized, core_sent]

/-- The next turn stops a run where it is no text, or where the request for the answer is lost. -/
theorem stopped_of_talking {context : String} {keyId : Option Int} {e : Stop}
    (h : Talking env context keyId s (.error e) t) :
    (∃ issues, e = .fault (.turn issues) ∧ (env.entered "ai_chat_input").present = true ∧
      ∀ text, env.entered "ai_chat_input" ≠ .str text) ∨
    ∃ text op, env.entered "ai_chat_input" = .str text ∧ text ≠ "" ∧
      op = converse (s.state.history ++ [{ role := "user", content := text }]) context keyId ∧
      env.answer op s = .error e ∧ t.requests = (s.sent env op).requests := by
  generalize hr : (.error e : Except Stop Unit) = r at h
  cases h with
  | silent => cases hr
  | noText hpresent hne =>
    obtain rfl := Except.error.inj hr
    exact .inl ⟨_, rfl, hpresent, hne⟩
  | @said text asked answer htyped htext hasked hanswer =>
    cases answer with
    | ok _ => cases hr
    | error e' =>
      obtain rfl := Except.error.inj hr
      exact .inr ⟨text, _, htyped, htext, by rw [hasked], hanswer, rfl⟩

end Cores

section Reaches
variable {env : Env} {keys : List ApiKey} {s : Screen} {id : Json} {keyId : Option Int}
  {context : String}

theorem reaches_conversation (context : String) (keyId : Option Int) :
    Reaches env s (conversation context keyId) (Talking env context keyId s) := by
  cases hpresent : (env.entered "ai_chat_input").present with
  | false => exact .of_ends (ends_conversation_of_absent hpresent context keyId) .silent
  | true =>
    by_cases h : ∃ text, env.entered "ai_chat_input" = .str text
    · obtain ⟨text, htyped⟩ := h
      have htext : text ≠ "" := by
        rintro rfl
        rw [htyped] at hpresent
        cases hpresent
      exact .of_ends (ends_conversation_of_text htyped htext rfl rfl) (.said htyped htext rfl rfl)
    · have hne : ∀ text, env.entered "ai_chat_input" ≠ .str text := not_exists.mp h
      obtain ⟨issues, hends⟩ := ends_conversation_of_ne hpresent hne context keyId
      exact .of_ends hends (.noText hpresent hne)

theorem reaches_summarizing (id : Json) (keyId : Option Int) {P : Except Stop Unit → Screen → Prop}
    (h : ∀ r t, Summarizing env id keyId s r t → P r t) :
    Reaches env s (do
      match ← ask (summaryOf id keyId) with
      | .ok summary => modifyState fun st => { st with summary := some (some summary) }
      | .error f => error "Summary failed" f) P := by
  refine .ask (fun answer hanswer => ?_) fun e he => h _ _ (.lost he)
  cases answer with
  | ok summary => exact .of_ends (.store _) (h _ _ (.summarized hanswer))
  | error f => exact .drawn (Draws.write _ _) fun _ _ => h _ _ (.refused hanswer)

/-- The assistant beside the logs: first a summary, then the conversation. -/
theorem reaches_assistant (id : Json) (logs : List Log) {P : Except Stop Unit → Screen → Prop}
    (hlost : ∀ choice e t, Summarizing env id (env.assistantKey keys)
      (s.store (·.put "ai_api_key" (.str choice))) (.error e) t → P (.error e) t)
    (htalk : ∀ choice t, Summarizing env id (env.assistantKey keys)
      (s.store (·.put "ai_api_key" (.str choice))) (.ok ()) t →
      (∀ f, transcript env.zone logs = .error f → P (.error (.fault (.shift f))) t) ∧
      ∀ context r u, transcript env.zone logs = .ok context →
        Talking env context (env.assistantKey keys) t r u → P r u) :
    Reaches env s (assistant keys id logs) P := by
  obtain ⟨choice, hchoice⟩ := ends_chooseAssistantKey env s keys "ai_api_key"
  unfold assistant
  refine .draw (Draws.write _ _) fun _ _ => .after hchoice ?_
  refine .draw (Draws.button _ _ _ _) fun pressed _ => ?_
  -- after the button the panel goes on in the same way, pressed or not
  extract_lets talk rest
  have hconversation {t : Screen} (ht : Summarizing env id (env.assistantKey keys)
      (s.store (·.put "ai_api_key" (.str choice))) (.ok ()) t) (r : Unit) :
      Reaches env t (talk r) P := by
    obtain ⟨hshift, htext⟩ := htalk choice t ht
    refine .draw (Draws.write _ _) fun _ _ => .draw Draws.read fun env' henv => ?_
    rw [henv]
    cases htranscript : transcript env.zone logs with
    | error f => exact .stop (fun s' hs => ⟨rfl, hs⟩) (hshift f htranscript)
    | ok context =>
      refine .after (.pure _) ?_
      exact (reaches_conversation context _).mono fun r u => htext context r u htranscript
  have hrest {t : Screen} (ht : Summarizing env id (env.assistantKey keys)
      (s.store (·.put "ai_api_key" (.str choice))) (.ok ()) t) (r : Unit) :
      Reaches env t (rest r) P := by
    refine .getState ?_
    split
    · exact .draw (draws_showSummary _) fun _ _ => hconversation ht ()
    · exact hconversation ht ()
  cases pressed with
  | false => exact hrest .idle ()
  | true =>
    refine .draw (Draws.container _ _ _) fun spinner _ => ?_
    refine .seq (A := fun _ t => Summarizing env id (env.assistantKey keys)
      (s.store (·.put "ai_api_key" (.str choice))) (.ok ()) t)
      (.within _ (reaches_summarizing id _ ?_)) fun _ t ht => hrest ht ()
    rintro (e | _) t ht
    · exact hlost choice e t ht
    · exact ht

theorem reaches_detail (keys : List ApiKey) :
    Reaches env s (detail keys) (Detailing env keys s) := by
  unfold detail
  refine .getState ?_
  dsimp only
  have hcurrent : s.state.value "current_session_id" = s.state.core.current := rfl
  rw [hcurrent]
  split_ifs with hpresent
  · exact .drawn (Draws.write _ _) fun _ _ => .unselected (by simpa using hpresent)
  have hopen : s.state.core.current.present = true := by simpa using hpresent
  refine .draw (Draws.post _) fun _ _ => .draw Draws.read fun _ henv => ?_
  rw [henv]
  refine .ask (fun answer hanswer => ?_) fun e he => .lost hopen he
  cases answer with
  | error f => exact .drawn (Draws.write _ _) fun _ _ => .refused hopen hanswer
  | ok logs =>
    refine .draw (Draws.row _ _ _) fun columns _ => ?_
    refine .draw (.within _ (draws_showLogs _ _)) fun _ _ => .within _ ?_
    refine reaches_assistant _ _ (fun choice e t h => ?_) fun choice t h => ⟨?_, ?_⟩
    · exact .unsummarized ⟨hopen, hanswer, choice, rfl⟩ h
    · exact fun f hshift => .shift ⟨hopen, hanswer, choice, rfl⟩ h hshift
    · exact fun context r u hcontext htalk =>
        .talking ⟨hopen, hanswer, choice, rfl⟩ h hcontext htalk

end Reaches
end ChatAudit.Console
