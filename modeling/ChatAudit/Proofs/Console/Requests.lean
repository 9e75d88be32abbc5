import ChatAudit.Proofs.Api.Resource
import ChatAudit.Proofs.Console.Course

/-! What a run asks for, and when. -/
namespace ChatAudit.Console
open Api Panel

section Parts
variable (env : Env) (state : State)

/-- What a run asks for the list of sessions with: the filters, and the query with the page and its
size besides. -/
def Env.lists : Option (Filters × Filters) :=
  (exec (upTo fun filters => return (filters, ← asking filters)) env { state }).1.toOption

/-- The page of sessions that a run shows, and what the user wants done with one of them. -/
def Env.chooses : Option (Page Session × Option (Action × String)) :=
  (exec (upTo choosing) env { state }).1.toOption.join

/-- The session whose tab a run opens. -/
def Env.opens : Option Json :=
  match exec (upTo overview) env { state } with
  | (.ok (), t) => if t.state.core.current.present then some t.state.core.current else none
  | (.error _, _) => none

end Parts

section Parts
variable {env : Env} {state : State} {keys : List ApiKey} {s t : Screen}

theorem exec_upTo_of_unopened {α : Type} {part : Filters → Panel α} {e : Stop}
    (h : (exec opening env { state }).1 = .error e) :
    (exec (upTo part) env { state }).1 = .error e := by
  unfold upTo
  rw [exec_bind]
  rcases hexec : exec opening env { state } with ⟨e' | opened, t⟩
  · rw [hexec] at h
    obtain rfl := Except.error.inj h
    rfl
  · rw [hexec] at h
    cases h

theorem lists_of_unopened {e : Stop} (h : (exec opening env { state }).1 = .error e) :
    env.lists state = none := by
  rw [Env.lists, exec_upTo_of_unopened h]
  rfl

theorem lists_of_opens (h : Opens env state keys s) :
    (∃ e u, Asking env (env.filtering keys) s (.error e) u ∧ env.lists state = none) ∨
      ∃ query u, Asking env (env.filtering keys) s (.ok query) u ∧
        env.lists state = some ((env.filtering keys).filters, query) := by
  have hpart : Reaches env s (do
      return ((env.filtering keys).filters, ← asking (env.filtering keys).filters))
      (Branch (fun asked u => Asking env (env.filtering keys) s (.ok asked.2) u ∧
          asked.1 = (env.filtering keys).filters)
        fun e u => Asking env (env.filtering keys) s (.error e) u) :=
    .bind reaches_asking (fun query u h => .pure ⟨h, rfl⟩) fun e u h => h
  obtain ⟨u, -, hend⟩ := exec_upTo (fun filters => return (filters, ← asking filters)) h hpart
  unfold Env.lists
  rcases hexec : (exec (upTo fun filters => return (filters, ← asking filters)) env { state }).1
    with e | ⟨filters, query⟩
  · rw [hexec] at hend
    exact .inl ⟨e, u, hend, rfl⟩
  · rw [hexec] at hend
    obtain ⟨hasked, rfl⟩ : _ ∧ filters = (env.filtering keys).filters := hend
    exact .inr ⟨query, u, hasked, rfl⟩

/-- The query that a run asks with stands before it asks. -/
theorem asking_of_lists (hopens : Opens env state keys s) {filters query : Filters}
    (h : env.lists state = some (filters, query)) :
    filters = (env.filtering keys).filters ∧
      ∃ u, Asking env (env.filtering keys) s (.ok query) u := by
  rcases lists_of_opens hopens with ⟨e, u, hasking, hnone⟩ | ⟨query', u, hasking, hsome⟩
  · rw [hnone] at h
    cases h
  · obtain ⟨rfl, rfl⟩ := Prod.mk.inj (Option.some.inj (hsome.symm.trans h))
    exact ⟨rfl, u, hasking⟩

theorem chooses_of_choosing (hpaged : state.core.Paged) (hopens : Opens env state keys s)
    {r : Except Stop (Option (Page Session × Option (Action × String)))}
    (h : Choosing env (env.filtering keys) s r t) : env.chooses state = r.toOption.join := by
  obtain ⟨p, hpage, hp⟩ := page_opened hpaged hopens
  obtain ⟨u, -, hchoosing⟩ := exec_upTo choosing hopens (reaches_choosing hpage hp)
  rw [Env.chooses, ← (h.unique hchoosing).1]

/-- The overview changes the page and its filters at most, unless it starts the run over. -/
theorem core_overviewed {sel : Selection} (h : Overviewing env sel s (.ok ()) t) :
    t.state.core = s.state.core.synced sel.filters := by
  cases h with
  | chosen h hend =>
    rw [← core_chosen h]
    cases hend with
    | unlisted | idle => rfl
    | bulkRefused => rw [core_sent]

theorem core_passed (h : Passes env state keys s t) :
    t.state.core = state.init.core.synced (env.filtering keys).filters := by
  rw [core_overviewed h.course, core_opened h.opens]

theorem opens_of_passes (h : Passes env state keys s t) : env.opens state =
    if state.core.current.present then some state.core.current else none := by
  obtain ⟨u, hexec, hdrawn⟩ := h.exec
  have hcurrent : u.state.core.current = state.core.current := by
    rw [hdrawn.1, core_passed h, Core.current_synced, State.core_init]
  rw [Env.opens, hexec]
  dsimp only
  rw [hcurrent]

end Parts

section Asked
variable (env : Env) (state : State)

/-- Whether the gateway has listed these sessions in a run that leaves the screen `w`. -/
def Loaded (w : Screen) (sessions : Page Session) : Prop :=
  ∃ filters query, env.lists state = some (filters, query) ∧ Answered env w (listing query) sessions

/-- What the overview asks for to be shown. -/
inductive Browses : Operation → Prop
  | statistics (sel : Selection) : Browses (statisticsFor sel.filters)
  | list {filters query : Filters} (h : env.lists state = some (filters, query)) :
    Browses (listing query)

/-- What the overview deletes in a run that leaves the screen `w`. -/
inductive Removes (w : Screen) : Operation → Prop
  | one {sessions : Page Session} {id : String} (hloaded : Loaded env state w sessions)
    (hid : id ∈ sessions.items.map (·.sessionId)) (hpressed : env.pressed ("delete_" ++ id)) :
    Removes w (.deleteSession id .null .null)
  | selected {sessions : Page Session} (hloaded : Loaded env state w sessions)
    (hne : env.ticked sessions.items ≠ [])
    (hpressed : env.pressed
      ("Delete selected (" ++ toString (env.ticked sessions.items).length ++ ")")) :
    Removes w (.deleteSessions
      (.entries [("session_ids", .arr ((env.ticked sessions.items).map .str))]))
  | all {sel : Selection} {start : Timestamp}
    (hconfirmed : env.pressed "Confirm delete of all matching sessions")
    (hpressed : env.pressed "Delete all matching") (hstart : start.offset = env.now.offset) :
    Removes w (.deleteSessions (.entries (deletionBody sel.filters start env.now)))

/-- What the tab of a session asks for in a run that leaves the screen `w`. -/
inductive Inspects (w : Screen) : Operation → Prop
  | messages {id : Json} (h : env.opens state = some id) : Inspects w (messagesOf env id)
  | summary {id : Json} (keyId : Option Int) (h : env.opens state = some id) :
    Inspects w (summaryOf id keyId)
  | turn {id : Json} {logs : Page Log} {context text : String} (keyId : Option Int)
    (h : env.opens state = some id) (hlogs : Answered env w (messagesOf env id) logs)
    (hcontext : transcript env.zone logs.items = .ok context)
    (htyped : env.entered "ai_chat_input" = .str text) (htext : text ≠ "") :
    Inspects w (converse (state.history ++ [{ role := "user", content := text }]) context keyId)

/-- What a run that leaves the screen `w` asks for, and when. -/
inductive Asked (w : Screen) : Operation → Prop
  | keys : Asked w .listApiKeys
  | browsed {op : Operation} (h : Browses env state op) : Asked w op
  | removed {op : Operation} (h : Removes env state w op) : Asked w op
  | inspected {op : Operation} (h : Inspects env state w op) : Asked w op
  | upkeep {sel : Selection} {op : Operation} (h : Upkeep env sel op) : Asked w op

end Asked

/-- A run asks for nothing but what the gateway offers. -/
theorem known_of_asked {env : Env} {state : State} {w : Screen} {op : Operation}
    (h : Asked env state w op) : op.Known := by
  cases h with
  | keys => trivial
  | browsed h => cases h <;> trivial
  | removed h => cases h <;> trivial
  | inspected h => cases h <;> trivial
  | upkeep h => cases h <;> trivial

section Overview
variable {env : Env} {state : State} {sel : Selection} {keys : List ApiKey} {s t w : Screen}

theorem since_asking {r : Except Stop Filters} (h : Asking env sel s r t) :
    Since env (Browses env state) s t := by
  have hsent : Since env (Browses env state) s (s.sent env (statisticsFor sel.filters)) :=
    .sent (.statistics _) s
  cases h with
  | lost | tooLarge => exact hsent
  | asked h hsize ht =>
    rw [ht]
    exact hsent.store _

theorem lists_of_asking (hopens : Opens env state keys s) {query : Filters}
    (h : Asking env (env.filtering keys) s (.ok query) t) :
    env.lists state = some ((env.filtering keys).filters, query) := by
  rcases lists_of_opens hopens with ⟨e, u, h', -⟩ | ⟨query', u, h', hlists⟩
  · cases (h.unique h').1
  · obtain rfl := Except.ok.inj (h.unique h').1
    exact hlists

theorem since_settling (hopens : Opens env state keys s)
    {r : Except Stop (Option (Page Session × Int))} (h : Settling env (env.filtering keys) s r t) :
    Since env (Browses env state) s t := by
  cases h with
  | unasked h => exact since_asking h
  | @asked query u _ _ h hlisting =>
    refine (since_asking h).trans ?_
    have hsent : Since env (Browses env state) u (u.sent env (listing query)) :=
      .sent (.list (lists_of_asking hopens h)) u
    cases hlisting with
    | lost | refused | settled => exact hsent
    | clamped => exact hsent.store _

/-- The sessions that are shown are those that the gateway has just listed. -/
theorem loaded_of_settling (hopens : Opens env state keys s) {sessions : Page Session} {size : Int}
    (h : Settling env (env.filtering keys) s (.ok (some (sessions, size))) t)
    (hw : t.requests <:+ w.requests) : Loaded env state w sessions := by
  cases h with
  | asked h hlisting =>
    cases hlisting with
    | settled hanswer => exact ⟨_, _, lists_of_asking hopens h, answered_of_answer hanswer hw⟩

theorem since_choosing (hopens : Opens env state keys s)
    {r : Except Stop (Option (Page Session × Option (Action × String)))}
    (h : Choosing env (env.filtering keys) s r t) : Since env (Browses env state) s t := by
  cases h with
  | unsettled h | unlisted h => exact since_settling hopens h
  | browsed h hbrowsing =>
    refine (since_settling hopens h).trans (.of_eq ?_)
    cases hbrowsing with
    | turned | chosen => rfl

theorem chosen_of_choosing {sessions : Page Session} {wanted : Option (Action × String)}
    (h : Choosing env sel s (.ok (some (sessions, wanted))) t) :
    wanted = env.wanted sessions.items ∧ ∃ size u,
      Settling env sel s (.ok (some (sessions, size))) u ∧
        t = u.store (env.ticks sessions.items) := by
  cases h with
  | browsed h hbrowsing =>
    cases hbrowsing with
    | chosen => exact ⟨rfl, _, _, h, rfl⟩

/-- The boxes are read as they are ticked. -/
theorem removes_of_bulk {sessions : Page Session} {st : State} {op : Operation}
    (hloaded : Loaded env state w sessions) (hwanted : env.wanted sessions.items = none)
    (h : Bulk env sel sessions.items (env.ticks sessions.items st) op) :
    Removes env state w op := by
  cases h with
  | selected hne hpressed =>
    rw [selected_ticks hwanted] at hne hpressed ⊢
    exact .selected hloaded hne hpressed
  | all hconfirmed hpressed hstart => exact .all hconfirmed hpressed hstart

theorem since_finishing {sessions : Page Session} {r : Except Stop Unit}
    (hloaded : Loaded env state w sessions)
    (h : Finishing env sel (s.store (env.ticks sessions.items))
      (some (sessions, env.wanted sessions.items)) r t) :
    Since env (Removes env state w) (s.store (env.ticks sessions.items)) t := by
  cases hwanted : env.wanted sessions.items with
  | none =>
    rw [hwanted] at h
    cases h with
    | idle | tooEarly => exact .of_eq rfl
    | bulkLost hop | bulkRefused hop => exact .sent (removes_of_bulk hloaded hwanted hop) _
    | bulkDeleted hop => exact (Since.sent (removes_of_bulk hloaded hwanted hop) _).store _
  | some wanted =>
    rw [hwanted] at h
    cases h with
    | selected => exact .of_eq rfl
    | lost =>
      obtain ⟨hid, hpressed⟩ := pressed_of_wanted hwanted
      exact .sent (.one hloaded hid hpressed) _
    | deleted =>
      obtain ⟨hid, hpressed⟩ := pressed_of_wanted hwanted
      exact (Since.sent (Removes.one hloaded hid hpressed) _).store _

/-- What is deleted at the end of the overview is one request at most. -/
theorem requests_of_finishing {choice : Option (Page Session × Option (Action × String))}
    {r : Except Stop Unit} (h : Finishing env sel s choice r t) :
    s.requests <:+ t.requests ∧ t.requests.length ≤ s.requests.length + 1 := by
  have hsent (op : Operation) : s.requests <:+ (s.sent env op).requests ∧
      (s.sent env op).requests.length ≤ s.requests.length + 1 := by
    unfold Screen.sent
    split
    · exact ⟨List.suffix_cons _ _, Nat.le_refl _⟩
    · exact ⟨List.suffix_refl _, Nat.le_succ _⟩
  cases h with
  | unlisted | selected | idle | tooEarly => exact ⟨List.suffix_refl _, Nat.le_succ _⟩
  | lost | deleted | bulkLost | bulkRefused | bulkDeleted => exact hsent _

/-- The overview asks for what it shows, and then may delete. -/
theorem since_overviewing (hopens : Opens env state keys s) {r : Except Stop Unit}
    (h : Overviewing env (env.filtering keys) s r t) (hw : t.requests <:+ w.requests) :
    ∃ u, Since env (Browses env state) s u ∧ Since env (Removes env state w) u t ∧
      t.requests.length ≤ u.requests.length + 1 := by
  cases h with
  | unchosen h => exact ⟨t, since_choosing hopens h, .of_eq rfl, Nat.le_succ _⟩
  | @chosen choice _ u _ h hend =>
    obtain ⟨hsuffix, hlength⟩ := requests_of_finishing hend
    refine ⟨u, since_choosing hopens h, ?_, hlength⟩
    match choice, h, hend with
    | none, _, .unlisted => exact .of_eq rfl
    | some (sessions, wanted), h, hend =>
      obtain ⟨rfl, size, v, hsettled, rfl⟩ := chosen_of_choosing h
      exact since_finishing (loaded_of_settling hopens hsettled (hsuffix.trans hw)) hend

end Overview

section Detail
variable {env : Env} {state : State} {keys : List ApiKey} {s t w : Screen}

theorem since_summarizing {id : Json} {keyId : Option Int} {r : Except Stop Unit}
    (hopens : env.opens state = some id) (h : Summarizing env id keyId s r t) :
    Since env (Inspects env state w) s t := by
  have hsent : Since env (Inspects env state w) s (s.sent env (summaryOf id keyId)) :=
    .sent (.summary keyId hopens) s
  cases h with
  | idle => exact .of_eq rfl
  | lost | refused => exact hsent
  | summarized => exact hsent.store _

/-- Whether the session that is selected on a screen is the one that the run opens, with its
conversation so far. -/
structure Faces (env : Env) (state : State) (s : Screen) : Prop where
  opens : s.state.core.current.present = true → env.opens state = some s.state.core.current
  history : s.state.core.history = state.history

theorem suffix_of_shows {logs : Page Log} (h : Shows env s logs t) :
    (s.sent env (messagesOf env s.state.core.current)).requests <:+ t.requests := by
  obtain ⟨choice, rfl⟩ := h.screen
  exact List.suffix_refl _

/-- The next turn goes with the conversation so far, and with the logs that are shown. -/
theorem inspects_of_shows {logs : Page Log} {u : Screen} {keyId : Option Int}
    {context text : String} (hfaces : Faces env state s) (hshows : Shows env s logs t)
    (h : Summarizing env s.state.core.current keyId t (.ok ()) u)
    (hcontext : transcript env.zone logs.items = .ok context)
    (htyped : env.entered "ai_chat_input" = .str text) (htext : text ≠ "")
    (hw : t.requests <:+ w.requests) : Inspects env state w
      (converse (u.state.history ++ [{ role := "user", content := text }]) context keyId) := by
  have hkept : u.state.core.history = state.history := by
    rw [core_of_summarizing h, core_of_shows hshows, hfaces.history]
  have hhistory : u.state.history = state.history := hkept
  have hlogs := answered_of_answer hshows.answer ((suffix_of_shows hshows).trans hw)
  rw [hhistory]
  exact .turn keyId (hfaces.opens hshows.present) hlogs hcontext htyped htext

theorem since_detailing {r : Except Stop Unit} (hfaces : Faces env state s)
    (h : Detailing env keys s r t) (hw : t.requests <:+ w.requests) :
    Since env (Inspects env state w) s t := by
  have hmessages (hpresent : s.state.core.current.present = true) :
      Since env (Inspects env state w) s (s.sent env (messagesOf env s.state.core.current)) :=
    .sent (.messages (hfaces.opens hpresent)) s
  have hshows {logs : Page Log} {u : Screen} (hu : Shows env s logs u) :
      Since env (Inspects env state w) s u := by
    obtain ⟨choice, rfl⟩ := hu.screen
    exact (hmessages hu.present).store _
  cases h with
  | unselected => exact .of_eq rfl
  | lost hpresent | refused hpresent => exact hmessages hpresent
  | unsummarized hu h | shift hu h =>
    exact (hshows hu).trans (since_summarizing (hfaces.opens hu.present) h)
  | @talking logs u v _ context _ hu h hcontext htalk =>
    have hsummarized : Since env (Inspects env state w) u v :=
      since_summarizing (hfaces.opens hu.present) h
    refine ((hshows hu).trans hsummarized).trans ?_
    cases htalk with
    | silent | noText => exact .of_eq rfl
    | said htyped htext hasked =>
      have hsuffix := (hsummarized.suffix.trans (Since.suffix_sent _ _)).trans hw
      have hturn := inspects_of_shows hfaces hu h hcontext htyped htext hsuffix
      rw [hasked]
      exact (Since.sent hturn v).store _

theorem faces_of_passes (h : Passes env state keys s t) : Faces env state t := by
  have hcore := core_passed h
  have hcurrent : t.state.core.current = state.core.current := by
    rw [hcore, Core.current_synced, State.core_init]
  refine ⟨fun hpresent => ?_, ?_⟩
  · rw [hcurrent] at hpresent ⊢
    rw [opens_of_passes h, if_pos hpresent]
  · rw [hcore, Core.history_synced, State.core_init]
    rfl

/-- The tab of a session asks about the session that the run opens. -/
theorem since_detailed (hpasses : Passes env state keys s t) {r : Except Stop Unit} {u : Screen}
    (h : Detailing env keys t r u) (hw : u.requests <:+ w.requests) :
    Since env (Inspects env state w) t u :=
  since_detailing (faces_of_passes hpasses) h hw

theorem suffix_of_detailed (hpasses : Passes env state keys s t) {r : Except Stop Unit} {u : Screen}
    (h : Detailing env keys t r u) : t.requests <:+ u.requests :=
  (since_detailed hpasses h (List.suffix_refl _)).suffix

end Detail

section Runs
variable {env : Env} {state : State} {keys : List ApiKey} {s t w : Screen}

/-- The requests of a run: for the keys, for what the overview shows, for what it deletes, for what
the tab of a session needs, and for upkeep. -/
theorem since_course {r : Except Stop Unit} (h : Course env state r t)
    (hw : t.requests <:+ w.requests) : ∃ s u v x sel, Since env (· = .listApiKeys) { state } s ∧
      Since env (Browses env state) s u ∧ Since env (Removes env state w) u v ∧
      v.requests.length ≤ u.requests.length + 1 ∧ Since env (Inspects env state w) v x ∧
      Since env (Upkeep env sel) x t := by
  cases h with
  -- what a run does not come to asks for nothing; any filters do for it then
  | @unopened e s _ hframe =>
    exact ⟨t, t, t, t, ⟨"24h", "", "", "", none, none, by decide⟩, hframe.since, .of_eq rfl,
      .of_eq rfl, Nat.le_succ _, .of_eq rfl, .of_eq rfl⟩
  | @stopped keys s _ e hopens hoverview =>
    obtain ⟨u, hbrowsed, hremoved, hlength⟩ := since_overviewing hopens hoverview hw
    exact ⟨s, u, t, t, env.filtering keys, hopens.frame.since, hbrowsed, hremoved, hlength,
      .of_eq rfl, .of_eq rfl⟩
  | @detailed keys s v _ e hpasses hdetail =>
    have hv := (suffix_of_detailed hpasses hdetail).trans hw
    obtain ⟨u, hbrowsed, hremoved, hlength⟩ := since_overviewing hpasses.opens hpasses.course hv
    exact ⟨s, u, v, t, env.filtering keys, hpasses.opens.frame.since, hbrowsed, hremoved, hlength,
      since_detailed hpasses hdetail hw, .of_eq rfl⟩
  | @finished keys s v x y _ _ hpasses hdetail hupkeep hend =>
    have hrequests : t.requests = y.requests := by
      rcases hend with rfl | rfl <;> rfl
    have hkept : Since env (Upkeep env (env.filtering keys)) x t :=
      (frame_of_keeping hupkeep).since.trans (.of_eq hrequests)
    have hx := hkept.suffix.trans hw
    have hv := (suffix_of_detailed hpasses hdetail).trans hx
    obtain ⟨u, hbrowsed, hremoved, hlength⟩ := since_overviewing hpasses.opens hpasses.course hv
    exact ⟨s, u, v, x, env.filtering keys, hpasses.opens.frame.since, hbrowsed, hremoved, hlength,
      since_detailed hpasses hdetail hx, hkept⟩

/-- All that a run asks for, and when. -/
theorem asked_of_run (hpaged : state.core.Paged) {request : Request}
    (h : request ∈ (run page env state).2.requests) :
    Source env (Asked env state (run page env state).2) request := by
  obtain ⟨t, hdrawn, hcourse⟩ := course_of_run env hpaged
  have hw : t.requests <:+ (run page env state).2.requests := hdrawn.2 ▸ List.suffix_refl _
  obtain ⟨s, u, v, x, sel, hkeys, hbrowsed, hremoved, -, hinspected, hkept⟩ :=
    since_course hcourse hw
  rw [hdrawn.2] at h
  have hlisted : Since env (Asked env state (run page env state).2) { state } s :=
    hkeys.mono fun _ hop => hop ▸ .keys
  have hall := (((hlisted.trans (hbrowsed.mono fun _ => .browsed)).trans
    (hremoved.mono fun _ => .removed)).trans (hinspected.mono fun _ => .inspected)).trans
    (hkept.mono fun _ => .upkeep)
  exact hall.source h

end Runs

/-- A page with one session. -/
def oneSession : Reply := .response ⟨200, [], Charset.encodeUtf8
  ("\x7b\"items\":[\x7b\"session_id\":\"a1\",\"last_at\":\"2026-10-18T00:00:00Z\"\x7d],".toList ++
    "\"total\":1,\"page\":1,\"page_size\":50\x7d".toList)⟩

/-- A user who presses a button beside that session. -/
def pressing (button : String) : Env where
  client := Api.gateway
  settings := .ofEnvironment []
  now := noon
  widgets := [(button, .bool true)]
  gateway n := if n = 2 then oneSession else .lost ""

example : (run page (pressing "delete_a1") {}).2.requests.map (·.method) =
    ["DELETE", "GET", "GET", "GET"] := by decide +kernel

end ChatAudit.Console
