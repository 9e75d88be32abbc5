import ChatAudit.Proofs.Console.Paging
import Mathlib.Data.List.Induction

/-! What belongs to a session stays with it: no other session sees its conversation or summary. -/
namespace ChatAudit.Console
open Api Panel

section Steps
variable {env : Env} {sel : Selection} {s t w : Screen} {id : Json}

/-- The selected session and what belongs to it. -/
def Core.session (c : Core) : Json × List Turn × Option Summary := (c.current, c.history, c.summary)

theorem Core.session_synced (filters : Filters) (c : Core) :
    (c.synced filters).session = c.session := by
  rw [Core.synced_eq]
  rfl

theorem session_of_asking {r : Except Stop Filters} (h : Asking env sel s r t) :
    t.state.core.session = s.state.core.session := by
  cases r with
  | error e => rw [core_unasked h]
  | ok query => rw [(core_asked h).1, Core.session_synced]

theorem session_of_choosing {r : Except Stop (Option (Page Session × Option (Action × String)))}
    (h : Choosing env sel s r t) : t.state.core.session = s.state.core.session := by
  have hsettling {r : Except Stop (Option (Page Session × Int))} {t : Screen}
      (h : Settling env sel s r t) : t.state.core.session = s.state.core.session := by
    cases h with
    | unasked h => exact session_of_asking h
    | asked h hlisting =>
      rw [← session_of_asking h]
      cases hlisting with
      | lost | refused | settled => rw [core_sent]
      | clamped =>
        rw [core_put_page, core_sent]
        rfl
  cases h with
  | unsettled h | unlisted h => exact hsettling h
  | browsed h hbrowsing =>
    rw [← hsettling h]
    cases hbrowsing with
    | turned =>
      rw [core_put_page]
      rfl
    | chosen => rw [Screen.store, core_ticks]

/-- Whether what belongs to the session is the same; it may no longer be the selected one. -/
def Core.Keeps (c c' : Core) : Prop :=
  c'.history = c.history ∧ c'.summary = c.summary ∧ (c'.current = c.current ∨ c'.current = .null)

theorem Core.keeps_of_eq {c c' : Core} (h : c'.session = c.session) : c.Keeps c' := by
  obtain ⟨hcurrent, h⟩ := Prod.mk.inj h
  obtain ⟨hhistory, hsummary⟩ := Prod.mk.inj h
  exact ⟨hhistory, hsummary, .inl hcurrent⟩

theorem Core.Keeps.congr {c c' c'' : Core} (h : c.Keeps c') (heq : c.session = c''.session) :
    c''.Keeps c' := by
  obtain ⟨hcurrent, heq⟩ := Prod.mk.inj heq
  obtain ⟨hhistory, hsummary⟩ := Prod.mk.inj heq
  rwa [Core.Keeps, ← hcurrent, ← hhistory, ← hsummary]

theorem Core.keeps_null (c : Core) : c.Keeps { c with current := .null } := ⟨rfl, rfl, .inr rfl⟩

/-- What the overview does unless a session is selected. -/
theorem keeps_of_finishing {sessions : Page Session} {wanted : Option (Action × String)}
    {r : Except Stop Unit} (h : Finishing env sel s (some (sessions, wanted)) r t)
    (hwanted : ∀ id, wanted ≠ some (.select, id)) : s.state.core.Keeps t.state.core := by
  cases h with
  | selected => exact absurd rfl (hwanted _)
  | idle | tooEarly => exact Core.keeps_of_eq rfl
  | lost | bulkLost | bulkRefused =>
    rw [core_sent]
    exact Core.keeps_of_eq rfl
  | bulkDeleted =>
    rw [core_put_current, core_sent]
    exact Core.keeps_null _
  | deleted =>
    rw [core_put_current, core_sent]
    unfold afterDeletion
    split_ifs
    · exact Core.keeps_null _
    · exact Core.keeps_of_eq rfl

/-- What a run that leaves the screen `w` adds to a conversation. -/
inductive Said (env : Env) (w : Screen) (before : List Turn) : List Turn → Prop
  | silent : Said env w before before
  | unanswered {text : String} (htyped : env.entered "ai_chat_input" = .str text) :
    Said env w before (before ++ [{ role := "user", content := text }])
  | answered {text context : String} {keyId : Option Int} {reply : Summary}
    (htyped : env.entered "ai_chat_input" = .str text)
    (h : Answered env w
      (converse (before ++ [{ role := "user", content := text }]) context keyId) reply) :
    Said env w before (before ++ [{ role := "user", content := text }] ++
      [{ role := "assistant", content := reply.summary }])

/-- The summary of a session after a run that leaves the screen `w`. -/
inductive Summed (env : Env) (w : Screen) (id : Json) (before : Option Summary) :
    Option Summary → Prop
  | kept : Summed env w id before before
  | answered {keyId : Option Int} {summary : Summary}
    (h : Answered env w (summaryOf id keyId) summary) : Summed env w id before (some summary)

theorem summed_of_summarizing {keyId : Option Int} {r : Except Stop Unit}
    (h : Summarizing env id keyId s r t) (hw : t.requests <:+ w.requests) :
    Summed env w id s.state.core.summary t.state.core.summary := by
  cases h with
  | idle => exact .kept
  | lost | refused =>
    rw [core_sent]
    exact .kept
  | summarized hanswer => exact .answered (answered_of_answer hanswer hw)

theorem said_of_talking {context : String} {keyId : Option Int} {r : Except Stop Unit}
    (h : Talking env context keyId s r t) (hw : t.requests <:+ w.requests) :
    t.state.core = { s.state.core with history := t.state.core.history } ∧
      Said env w s.state.core.history t.state.core.history := by
  cases h with
  | silent | noText => exact ⟨rfl, .silent⟩
  | said htyped htext hasked hanswer =>
    rw [core_withHistory, core_sent]
    refine ⟨rfl, ?_⟩
    subst hasked
    -- only a refusal takes the turn back; where the run stops, it stays without an answer
    rcases hreply : env.answer (converse _ context keyId) s with e | f | reply
    · rw [← hanswer, hreply]
      exact .unanswered htyped
    · rw [← hanswer, hreply]
      exact .silent
    · rw [← hanswer, hreply]
      exact .answered htyped (answered_of_answer hreply hw)

/-- What the tab of a session does to what belongs to the session. -/
theorem session_of_detailing {keys : List ApiKey} {r : Except Stop Unit}
    (h : Detailing env keys s r t) (hw : t.requests <:+ w.requests) :
    t.state.core.current = s.state.core.current ∧
      Said env w s.state.core.history t.state.core.history ∧
      Summed env w s.state.core.current s.state.core.summary t.state.core.summary := by
  cases h with
  | unselected => exact ⟨rfl, .silent, .kept⟩
  | lost | refused =>
    rw [core_sent]
    exact ⟨rfl, .silent, .kept⟩
  | unsummarized hu h | shift hu h =>
    have hsummed := summed_of_summarizing h hw
    rw [core_of_shows hu] at hsummed
    rw [core_of_summarizing h, core_of_shows hu]
    exact ⟨rfl, .silent, hsummed⟩
  | @talking logs u v _ context _ hu h hcontext htalk =>
    have hv : v.requests <:+ t.requests := by
      cases htalk with
      | silent | noText => exact List.suffix_refl _
      | said => exact Since.suffix_sent _ _
    have hsummed := summed_of_summarizing h (hv.trans hw)
    obtain ⟨hcore, hsaid⟩ := said_of_talking htalk hw
    rw [core_of_shows hu] at hsummed
    have hkept := core_of_summarizing h
    rw [core_of_shows hu] at hkept
    have hhistory : v.state.core.history = s.state.core.history := by rw [hkept]
    rw [hhistory] at hsaid
    rw [hcore]
    exact ⟨by rw [hkept], hsaid, hsummed⟩

end Steps

section Runs
variable {env : Env} {state : State} {keys : List ApiKey} {s t w : Screen}

/-- The session that the user selects in a run. -/
def Env.selects (env : Env) (state : State) : Option String :=
  match env.chooses state with
  | some (_, some (.select, id)) => some id
  | _ => none

theorem session_init (state : State) : state.init.core.session = state.core.session := by
  rw [State.core_init]
  rfl

/-- What a run does to the selected session and to what belongs to it. -/
inductive Passage (env : Env) (state : State) (w : Screen) : Prop
  /-- A selection starts from nothing. -/
  | selected {name : String} (hselects : env.selects state = some name)
    (hopens : env.opens state = none) (hsession : w.state.core.session = (.str name, [], none))
  /-- Without its tab nothing happens to a session, but that it may be left. -/
  | idle (hselects : env.selects state = none) (hopens : env.opens state = none)
    (hkeeps : state.core.Keeps w.state.core)
  | opened (hselects : env.selects state = none) (hpresent : state.core.current.present = true)
    (hopens : env.opens state = some state.core.current)
    (hcurrent : w.state.core.current = state.core.current ∨ w.state.core.current = .null)
    (hsaid : Said env w state.core.history w.state.core.history)
    (hsummed : Summed env w state.core.current state.core.summary w.state.core.summary)

theorem opens_of_error {e : Stop} (h : (exec (upTo overview) env { state }).1 = .error e) :
    env.opens state = none := by
  unfold Env.opens
  rcases hexec : exec (upTo overview) env { state } with ⟨r, t⟩
  rw [hexec] at h
  obtain rfl : r = .error e := h
  rfl

/-- The overview selects a session, or keeps what belongs to the one that is selected. -/
theorem session_of_overviewing (hpaged : state.core.Paged) (hopens : Opens env state keys s)
    {r : Except Stop Unit} (h : Overviewing env (env.filtering keys) s r t) :
    (∃ name, env.selects state = some name ∧ t.state.core.session = (.str name, [], none)) ∨
      env.selects state = none ∧ s.state.core.Keeps t.state.core := by
  cases h with
  | unchosen h =>
    refine .inr ⟨?_, Core.keeps_of_eq (session_of_choosing h)⟩
    rw [Env.selects, chooses_of_choosing hpaged hopens h]
    rfl
  | @chosen choice _ u _ h hend =>
    have hsession := session_of_choosing h
    have hchooses := chooses_of_choosing hpaged hopens h
    rw [Env.selects, hchooses]
    match choice, hend with
    | none, .unlisted => exact .inr ⟨rfl, Core.keeps_of_eq hsession⟩
    | some (sessions, some (.select, id)), .selected =>
      refine .inl ⟨id, rfl, ?_⟩
      rw [core_put_current]
      rfl
    | some (sessions, some (.delete, id)), hend =>
      exact .inr ⟨rfl, (keeps_of_finishing hend (by simp)).congr hsession⟩
    | some (sessions, none), hend =>
      exact .inr ⟨rfl, (keeps_of_finishing hend (by simp)).congr hsession⟩

/-- A run that gets past the overview selects nothing. -/
theorem selects_of_passes (hpaged : state.core.Paged) (h : Passes env state keys s t) :
    env.selects state = none := by
  cases h.course with
  | chosen hchoosing hend =>
    rw [Env.selects, chooses_of_choosing hpaged h.opens hchoosing]
    cases hend with
    | unlisted | idle | bulkRefused => rfl

theorem passage_of_passes (hpaged : state.core.Paged) (h : Passes env state keys s t) {u : Screen}
    {r : Except Stop Unit} (hdetail : Detailing env keys t r u) (hu : u.requests <:+ w.requests)
    (hhistory : w.state.core.history = u.state.core.history)
    (hsummary : w.state.core.summary = u.state.core.summary)
    (hcurrent : w.state.core.current = u.state.core.current ∨ w.state.core.current = .null) :
    Passage env state w := by
  have hselects := selects_of_passes hpaged h
  have hopens := opens_of_passes h
  have hsession : t.state.core.session = state.core.session := by
    rw [core_passed h, Core.session_synced, session_init]
  obtain ⟨hcurrent', hsession⟩ := Prod.mk.inj hsession
  obtain ⟨hhistory', hsummary'⟩ := Prod.mk.inj hsession
  obtain ⟨hkept, hsaid, hsummed⟩ := session_of_detailing hdetail hu
  rw [hkept, hcurrent'] at hcurrent
  by_cases hpresent : state.core.current.present = true
  · rw [if_pos hpresent] at hopens
    rw [← hhistory, hhistory'] at hsaid
    rw [hcurrent', ← hsummary, hsummary'] at hsummed
    exact .opened hselects hpresent hopens hcurrent hsaid hsummed
  · rw [if_neg hpresent] at hopens
    refine .idle hselects hopens ?_
    cases hdetail with
    | unselected => exact ⟨hhistory.trans hhistory', hsummary.trans hsummary', hcurrent⟩
    | lost hpresent' | refused hpresent' =>
      rw [hcurrent'] at hpresent'
      exact absurd hpresent' hpresent
    | unsummarized hshows | shift hshows | talking hshows =>
      have hpresent' := hshows.present
      rw [hcurrent'] at hpresent'
      exact absurd hpresent' hpresent

theorem passage_of_course (hpaged : state.core.Paged) {r : Except Stop Unit}
    (h : Course env state r t) (hdrawn : t.Drawn w) : Passage env state w := by
  have hw : t.requests <:+ w.requests := hdrawn.2 ▸ List.suffix_refl _
  cases h with
  | unopened hexec hframe =>
    have hchooses : env.chooses state = none := by
      rw [Env.chooses, exec_upTo_of_unopened hexec]
      rfl
    refine .idle (by rw [Env.selects, hchooses]) (opens_of_error (exec_upTo_of_unopened hexec)) ?_
    rw [hdrawn.1, hframe.core]
    exact Core.keeps_of_eq (session_init state)
  | stopped hopens hoverview hexec =>
    have hnone := opens_of_error hexec
    rcases session_of_overviewing hpaged hopens hoverview with
      ⟨name, hselects, hsession⟩ | ⟨hselects, hkeeps⟩
    · exact .selected hselects hnone (hdrawn.1 ▸ hsession)
    · refine .idle hselects hnone (hdrawn.1 ▸ hkeeps.congr ?_)
      rw [core_opened hopens, session_init]
  | detailed hpasses hdetail =>
    have hcore : w.state.core = t.state.core := by rw [hdrawn.1]
    exact passage_of_passes hpaged hpasses hdetail hw (by rw [hcore]) (by rw [hcore])
      (.inl (by rw [hcore]))
  | @finished keys s u v x _ _ hpasses hdetail hupkeep hend =>
    have hframe := frame_of_keeping hupkeep
    have hv : v.requests <:+ w.requests := by
      refine hframe.since.suffix.trans (List.IsSuffix.trans ?_ hw)
      rcases hend with rfl | rfl <;> exact List.suffix_refl _
    have hkeeps : v.state.core.Keeps w.state.core := by
      rw [hdrawn.1, ← hframe.core]
      rcases hend with rfl | rfl
      · exact Core.keeps_of_eq rfl
      · rw [core_put_current]
        exact Core.keeps_null _
    obtain ⟨hhistory, hsummary, hcurrent⟩ := hkeeps
    exact passage_of_passes hpaged hpasses hdetail hv hhistory hsummary hcurrent

theorem passage_of_run (hpaged : state.core.Paged) (env : Env) :
    Passage env state (run page env state).2 := by
  obtain ⟨t, hdrawn, hcourse⟩ := course_of_run env hpaged
  exact passage_of_course hpaged hcourse hdrawn

end Runs

/-- How the conversation about a session and its summary came about in all runs: it was selected in
one of them, and since then only runs with its tab open have added to them. -/
inductive Tells (id : Json) : List Env → List Turn → Option Summary → Prop
  | selected {envs : List Env} {env : Env} {name : String} (hid : id = .str name)
    (hselects : env.selects (runs {} envs) = some name) : Tells id (envs ++ [env]) [] none
  | idle {envs : List Env} {env : Env} {turns : List Turn} {summary : Option Summary}
    (h : Tells id envs turns summary) (hselects : env.selects (runs {} envs) = none)
    (hopens : env.opens (runs {} envs) = none) : Tells id (envs ++ [env]) turns summary
  | opened {envs : List Env} {env : Env} {turns turns' : List Turn}
    {summary summary' : Option Summary} (h : Tells id envs turns summary)
    (hselects : env.selects (runs {} envs) = none) (hopens : env.opens (runs {} envs) = some id)
    (hsaid : Said env (run page env (runs {} envs)).2 turns turns')
    (hsummed : Summed env (run page env (runs {} envs)).2 id summary summary') :
    Tells id (envs ++ [env]) turns' summary'

section Tells
variable {env : Env} {envs : List Env} {id : Json} {request : Request}

theorem runs_concat (state : State) (envs : List Env) (env : Env) :
    runs state (envs ++ [env]) = (run page env (runs state envs)).2.state := by
  induction envs generalizing state with
  | nil => rfl
  | cons e envs ih => exact ih _

/-- The conversation and the summary of the selected session are its own. -/
theorem tells_of_runs (envs : List Env) (h : (runs {} envs).core.current.present = true) :
    Tells (runs {} envs).core.current envs (runs {} envs).history (runs {} envs).core.summary := by
  -- induction on the latest run: it selected the session, or the session was selected before it
  induction envs using List.reverseRecOn with
  | nil => cases h
  | append_singleton envs env ih =>
    rw [runs_concat] at h ⊢
    cases passage_of_run (paged_of_runs envs) env with
    | selected hselects hopens hsession =>
      obtain ⟨hcurrent, hsession⟩ := Prod.mk.inj hsession
      obtain ⟨hhistory, hsummary⟩ := Prod.mk.inj hsession
      have hnone : (run page env (runs {} envs)).2.state.history = [] := hhistory
      rw [hcurrent, hnone, hsummary]
      exact .selected rfl hselects
    | idle hselects hopens hkeeps =>
      obtain ⟨hhistory, hsummary, hcurrent | hcurrent⟩ := hkeeps
      · have hkept : (run page env (runs {} envs)).2.state.history = (runs {} envs).history :=
          hhistory
        rw [hcurrent] at h ⊢
        rw [hkept, hsummary]
        exact .idle (ih h) hselects hopens
      · rw [hcurrent] at h
        cases h
    | opened hselects hpresent hopens hcurrent hsaid hsummed =>
      rcases hcurrent with hcurrent | hcurrent
      · rw [hcurrent]
        exact .opened (ih hpresent) hselects hopens hsaid hsummed
      · rw [hcurrent] at h
        cases h

/-- The same holds before and after a run that opens a session. -/
theorem tells_of_opens (h : env.opens (runs {} envs) = some id) :
    Tells id envs (runs {} envs).history (runs {} envs).core.summary ∧
      Tells id (envs ++ [env]) (runs {} (envs ++ [env])).history
        (runs {} (envs ++ [env])).core.summary := by
  rw [runs_concat]
  cases passage_of_run (paged_of_runs envs) env with
  | selected _ hopens | idle _ hopens =>
    rw [hopens] at h
    cases h
  | opened hselects hpresent hopens hcurrent hsaid hsummed =>
    obtain rfl := Option.some.inj (hopens.symm.trans h)
    have htells := tells_of_runs envs hpresent
    exact ⟨htells, .opened htells hselects hopens hsaid hsummed⟩

/-- Turns that were said on the page have a role and a content only. -/
theorem Said.plain {w : Screen} {turns turns' : List Turn} (h : Said env w turns turns')
    (hplain : ∀ t ∈ turns, t.extras = []) : ∀ t ∈ turns', t.extras = [] := by
  cases h with
  | silent => exact hplain
  | unanswered | answered => simpa [or_imp, forall_and] using hplain

theorem Tells.plain {turns : List Turn} {summary : Option Summary}
    (h : Tells id envs turns summary) : ∀ t ∈ turns, t.extras = [] := by
  induction h with
  | selected => exact nofun
  | idle _ _ _ ih => exact ih
  | opened _ _ _ hsaid _ ih => exact hsaid.plain ih

/-- The next turn is asked for with the conversation so far, about the logs that have just been
listed. -/
theorem turn_of_chat {state : State} (hpaged : state.core.Paged)
    (hplain : ∀ id, env.opens state = some id → ∀ t ∈ state.history, t.extras = [])
    (hm : request ∈ (run page env state).2.requests) (hchat : request.IsChat) :
    ∃ (id : Json) (logs : Page Log) (context text : String) (keyId : Option Int)
      (wire : Dict Json), env.opens state = some id ∧
      Answered env (run page env state).2 (messagesOf env id) logs ∧
      transcript env.zone logs.items = .ok context ∧ env.entered "ai_chat_input" = .str text ∧
      request.body = some (Json.obj wire).write ∧ wire.Perm (conversationWire
        (state.history ++ [{ role := "user", content := text }]) context keyId) := by
  obtain ⟨op, hasked, hsent⟩ := asked_of_run hpaged hm
  obtain ⟨body, rfl⟩ := Operation.eq_converse
    (Client.resource_of_postsTo (known_of_asked hasked) (by decide) (hsent (.lost ""))
      (isChat_iff.mp hchat))
  cases hasked with
  | inspected hop =>
    cases hop with
    | @turn id logs context text keyId hopens hlogs hcontext htyped htext =>
      have hturns : ∀ t ∈ state.history ++ [{ role := "user", content := text }],
          t.extras = [] := by
        simpa [or_imp, forall_and] using hplain id hopens
      obtain ⟨wire, hposts, hperm⟩ := posts_converse hturns context keyId
      exact ⟨id, logs, context, text, keyId, wire, hopens, hlogs, hcontext, htyped,
        Client.body_of_posts (hsent (.lost "")) hposts, hperm⟩
  | browsed hop | removed hop | upkeep hop => cases hop

end Tells

/-- A user who selects a session, says something about it, and then something more. -/
def talks : List Env := [
  pressing "session_a1",
  talk "hi" (.response ⟨200, [], Charset.encodeUtf8 "\x7b\"summary\":\"ok\"\x7d".toList⟩)]

def lastTalk : Env := talk "and" (.lost "down")

end ChatAudit.Console
