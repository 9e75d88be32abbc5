import ChatAudit.Proofs.Console.Keeps
import ChatAudit.Proofs.Console.Sidebar
import ChatAudit.Proofs.Console.Views

/-! Everything that a run of the page asks for and stores, and what the user has to press for it. -/
namespace ChatAudit.Console
open Panel

/-- The button of an action on a session. -/
def Action.button (id : String) : Action → String
  | .select => "session_" ++ id
  | .delete => "delete_" ++ id

/-- A relation that allows all that the page does. -/
structure Permits (env : Env) (R : Screen → Screen → Prop) : Prop where
  init (s : Screen) : R s (s.store State.init)
  set_values (change : Dict Json → Dict Json) (s : Screen) :
    R s (s.store fun st => { st with values := change st.values })
  ask_listApiKeys (s : Screen) : R s (s.sent env .listApiKeys)
  set_apiKeys (keys : List ApiKey) (s : Screen) :
    R s (s.store fun st => { st with apiKeys := some (some keys) })
  ask_statistics (filters : Filters) (s : Screen) : R s (s.sent env (.statistics (.entries filters)))
  ask_listSessions (filters : Filters) (s : Screen) :
    R s (s.sent env (.listSessions (.entries filters)))
  select {id : String} (h : env.pressed ("session_" ++ id)) (s : Screen) :
    R s (s.store fun st => { st with summary := some none, turns := some [] })
  ask_deleteSession {id : String} (h : env.pressed ("delete_" ++ id)) (s : Screen) :
    R s (s.sent env (.deleteSession id .null .null))
  ask_deleteSelected {ids : List String} (hids : ids ≠ [])
    (h : env.pressed ("Delete selected (" ++ toString ids.length ++ ")")) (s : Screen) :
    R s (s.sent env (.deleteSessions (.entries [("session_ids", .arr (ids.map .str))])))
  ask_deleteAll (hbox : env.pressed "Confirm delete of all matching sessions")
    (h : env.pressed "Delete all matching") (body : Dict Json) (s : Screen) :
    R s (s.sent env (.deleteSessions (.entries (("select_all", .bool true) :: body))))
  ask_listMessages (query : Dict Json) (s : Screen) :
    R s (s.sent env (.listMessages (.entries query)))
  ask_summarize (h : env.pressed "Summarize session" ∨ env.pressed "Summarize window")
    (body : Dict Json) (s : Screen) : R s (s.sent env (.summarize (.entries body)))
  set_summary (summary : Summary) (s : Screen) :
    R s (s.store fun st => { st with summary := some (some summary) })
  /-- The assistant is only there beside logs that were sent for. -/
  converse {query : Dict Json} (h : env.Sends (.listMessages (.entries query)))
    (context : String) (keyId : Option Int) :
    Keeps env R (conversation context keyId) fun _ => True
  ask_exportSessions (h : env.pressed "Prepare sessions CSV") (filters : Filters) (s : Screen) :
    R s (s.sent env (.exportSessions (.entries filters)))
  set_sessionsExport (file : File) (s : Screen) :
    R s (s.store fun st => { st with sessionsExport := some (some file) })
  ask_exportLogs (h : env.pressed "Prepare logs archive") (filters : Filters) (s : Screen) :
    R s (s.sent env (.exportLogs (.entries filters)))
  set_logsExport (file : File) (s : Screen) :
    R s (s.store fun st => { st with logsExport := some (some file) })
  ask_deleteLogs (hbox : env.pressed "confirm_delete_logs") (h : env.pressed "Delete matching logs")
    (body : Dict Json) (s : Screen) : R s (s.sent env (.deleteLogs (.entries body)))

variable {env : Env} {R : Screen → Screen → Prop} [Closed R]

theorem keeps_storedPage : Keeps env R storedPage fun _ => True :=
  .seq Draws.getState.keeps fun _ => .returns _

theorem keeps_bytesText (n : Int) : Keeps env R (bytesText n) fun _ => True := by
  unfold bytesText
  cases Amount.bytesOfInt? n with
  | some text => exact .returns _
  | none => exact .fail _

theorem keeps_showStatistics (s : Statistics) : Keeps env R (showStatistics s) fun _ => True := by
  unfold showStatistics
  refine .seq (Draws.write _ _).keeps fun _ => ?_
  refine .seq (Draws.row _ _ _).keeps fun columns => ?_
  refine .seq (Draws.forM fun _ _ => .post _).keeps fun _ => ?_
  refine .seq (keeps_bytesText _) fun estimated => ?_
  refine .seq (keeps_bytesText _) fun table => ?_
  refine .seq (Draws.write _ _).keeps fun _ => ?_
  split_ifs
  · refine .seq (Draws.write _ _).keeps fun _ => ?_
    exact .seq (Draws.row _ _ _).keeps fun _ => (Draws.forM fun _ _ => .post _).keeps
  · exact .returns _

theorem keeps_pageButton (label operator : String) (isOff : Json → Option Bool) :
    Keeps env R (pageButton label operator isOff) fun _ => True :=
  .seq keeps_storedPage fun stored => by
    cases isOff stored with
    | some off => exact (Draws.button _ _ _ _).keeps.mono fun _ _ => trivial
    | none => exact .fail _

theorem keeps_deleteSessions {body : Dict Json}
    (hask : ∀ s : Screen, R s (s.sent env (.deleteSessions (.entries body)))) :
    Keeps env R (deleteSessions body) fun _ => True :=
  .bind (.ask hask) fun answer _ => by
    cases answer with
    | ok d => exact .seq (Draws.write _ _).keeps fun _ => .returns _
    | error f => exact .seq (Draws.write _ _).keeps fun _ => .returns _

namespace Permits
variable (h : Permits env R)
include h

omit [Closed R] in
theorem keeps_put (key : String) (v : Json) :
    Keeps env R (modifyState (·.put key v)) fun _ => True :=
  .store (h.set_values (·.put key v))

theorem keeps_checkbox (label key : String) (options : List (String × Json)) :
    Keeps env R (checkbox label (some key) options) (· = env.pressed key) :=
  .seq (Draws.post _).keeps fun _ => .bind (Draws.input key).keeps fun v hv =>
    .seq (h.keeps_put key _) fun _ => .pure (by rw [hv]; rfl)

theorem keeps_selectbox (target label : String) (choices : List String) (index : Nat) (key : String)
    (options : List (String × Json)) :
    Keeps env R (selectbox target label choices index (some key) options) fun _ => True :=
  .seq (Draws.post _).keeps fun _ => .bind (Draws.input key).keeps fun v _ => by
    cases v <;> exact .seq (h.keeps_put key _) fun _ => .returns _

theorem keeps_loadKeys : Keeps env R loadKeys fun _ => True := by
  unfold loadKeys
  refine .seq Draws.getState.keeps fun state => ?_
  split
  · exact .returns _
  · refine .bind (.ask h.ask_listApiKeys) fun answer _ => ?_
    cases answer with
    | ok keys => exact .seq (.store (h.set_apiKeys keys)) fun _ => .returns _
    | error f => exact .seq (Draws.post _).keeps fun _ => .returns _

section Overview

theorem keeps_showOverviewStatistics (filters : Filters) :
    Keeps env R (showOverviewStatistics filters) fun _ => True :=
  .bind (.ask (h.ask_statistics _)) fun answer _ => by
    cases answer with
    | ok s => exact keeps_showStatistics s
    | error f => exact (Draws.write _ _).keeps

theorem keeps_turnPage (n : Int) : Keeps env R (turnPage n) fun _ => True := by
  refine .seq keeps_storedPage fun stored => ?_
  cases stored.plus? n with
  | some page => exact .seq (h.keeps_put _ _) fun _ => .rerun
  | none => exact .seq (.fail _) fun _ => .rerun

theorem keeps_pageSteps (total size : Int) : Keeps env R (pageSteps total size) fun _ => True := by
  have hstep (label operator : String) (isOff : Json → Option Bool) (n : Int) :
      Keeps env R (do if ← pageButton label operator isOff then turnPage n) fun _ => True := by
    refine .seq (keeps_pageButton _ _ _) fun pressed => ?_
    cases pressed with
    | true => exact h.keeps_turnPage n
    | false => exact .returns _
  unfold pageSteps
  split_ifs
  · exact .returns _
  refine .seq (Draws.row _ _ _).keeps fun columns => ?_
  refine .seq (.within _ (hstep _ _ _ _)) fun _ => ?_
  refine .seq (.within _ (.seq keeps_storedPage fun _ => (Draws.write _ _).keeps)) fun _ => ?_
  exact .within _ (hstep _ _ _ _)

theorem keeps_clampPage (total size : Int) : Keeps env R (clampPage total size) fun _ => True := by
  refine .seq Draws.getState.keeps fun state => ?_
  rcases Pager.clamp total size sessionsKey state.values with f | ⟨moved, values⟩
  · exact .fail _
  · refine .seq (.store (h.set_values fun _ => values)) fun _ => ?_
    cases moved with
    | true => exact .rerun
    | false => exact .returns _

theorem keeps_sessionsQuery (filters : Filters) (size : Int) :
    Keeps env R (sessionsQuery filters size) fun _ => True :=
  .seq (.store (h.set_values (Pager.sync filters sessionsKey))) fun _ =>
    .seq keeps_storedPage fun _ => .returns _

theorem keeps_showSession (s : Session) (current : Json) : Keeps env R (showSession s current)
    fun action => ∀ a ∈ action, env.pressed (a.button s.sessionId) := by
  unfold showSession
  refine .seq (Draws.container _ _ _).keeps fun c => .within _ ?_
  refine .seq (Draws.row _ _ _).keeps fun columns => ?_
  refine .seq (.within _ (.bind (h.keeps_checkbox _ _ _) fun _ _ => .returns _)) fun _ => ?_
  refine .bind (Q := fun selected => selected = true → env.pressed ("session_" ++ s.sessionId))
    (.within _ (.bind (Draws.button _ _ _ _).keeps fun selected hselected => ?_))
    fun selected hselected => ?_
  · have hpressed : selected = true → env.pressed ("session_" ++ s.sessionId) := by
      rintro rfl
      simpa using hselected.symm
    cases selected with
    | true => exact .pure hpressed
    | false => exact .seq (Draws.write _ _).keeps fun _ => .pure hpressed
  cases selected with
  | true => exact .pure fun a ha => Option.some.inj ha ▸ hselected rfl
  | false =>
    refine .within _ (.bind (Draws.button _ _ _ _).keeps fun deleted hdeleted => .pure ?_)
    cases deleted with
    | true =>
      rintro _ ⟨⟩
      simpa [Action.button] using hdeleted.symm
    | false => nofun

theorem keeps_firstAction (current : Json) (sessions : List Session) :
    Keeps env R (firstAction current sessions)
      fun action => ∀ a ∈ action, env.pressed (a.1.button a.2) := by
  induction sessions with
  | nil => exact .pure nofun
  | cons s rest ih =>
    refine .bind (h.keeps_showSession s current) fun action haction => ?_
    cases action with
    | some a =>
      refine .pure ?_
      rintro _ ⟨⟩
      exact haction a rfl
    | none => exact ih

theorem keeps_showSessions (sessions : List Session) (current : Json) :
    Keeps env R (showSessions sessions current)
      fun action => ∀ a ∈ action, env.pressed (a.1.button a.2) := by
  unfold showSessions
  split_ifs
  · exact .seq (Draws.write _ _).keeps fun _ => .pure nofun
  · exact h.keeps_firstAction current sessions

theorem keeps_act {action : Action} {id : String} (hpressed : env.pressed (action.button id)) :
    Keeps env R (act action.name (.str id)) fun _ => True := by
  refine .seq Draws.getState.keeps fun state => ?_
  cases action with
  | select => exact .seq (.store (h.select hpressed)) fun _ => .returns _
  | delete =>
    refine .bind (.ask (h.ask_deleteSession hpressed)) fun answer _ => ?_
    cases answer with
    | ok d => exact .seq (Draws.write _ _).keeps fun _ => .returns _
    | error f => exact .seq (Draws.write _ _).keeps fun _ => .returns _

theorem keeps_bulkActions (sessions : List Session) (filters : Filters) :
    Keeps env R (bulkActions sessions filters) fun _ => True := by
  unfold bulkActions
  refine .seq (.seq Draws.getState.keeps fun _ => .returns _) fun ids => ?_
  refine .seq (Draws.row _ _ _).keeps fun columns => ?_
  refine .seq (.within _ (.bind (Draws.button _ _ _ _).keeps fun pressed hpressed => ?_))
    fun deleted => ?_
  · cases pressed with
    | false => exact .returns _
    | true =>
      have hids : env.pressed ("Delete selected (" ++ toString ids.length ++ ")") ∧ ids ≠ [] := by
        simpa using hpressed.symm
      exact .seq (keeps_deleteSessions (h.ask_deleteSelected hids.2 hids.1)) fun _ => .returns _
  cases deleted with
  | some done => exact .returns _
  | none =>
    refine .within _ (.bind (Draws.checkbox _ _).keeps fun confirmed hconfirmed => ?_)
    refine .bind (Draws.button _ _ _ _).keeps fun pressed hpressed => ?_
    cases pressed with
    | false => exact .returns _
    | true =>
      have hboth : env.pressed "Delete all matching" ∧ confirmed := by simpa using hpressed.symm
      refine .bind (Q := fun body => ∃ rest, body = ("select_all", .bool true) :: rest) ?_
        fun body hbody => ?_
      · refine .bind Draws.read.keeps fun env' _ => ?_
        refine .bind (.ofExcept _ _) fun body _ => ?_
        split_ifs
        · exact .fail _
        · exact .pure ⟨_, rfl⟩
      · obtain ⟨rest, rfl⟩ := hbody
        exact keeps_deleteSessions (h.ask_deleteAll (hconfirmed ▸ hboth.2) hboth.1 rest)

theorem keeps_showSessionPage (sessions : Page Session) (filters : Filters) (size : Int) :
    Keeps env R (showSessionPage sessions filters size) fun _ => True := by
  unfold showSessionPage
  refine .seq (h.keeps_clampPage _ _) fun _ => ?_
  refine .seq (Draws.write _ _).keeps fun _ => ?_
  refine .seq (h.keeps_pageSteps _ _) fun _ => ?_
  refine .seq Draws.getState.keeps fun state => ?_
  refine .bind (h.keeps_showSessions _ _) fun action haction => ?_
  -- an action starts the run over, yet the text goes on after it
  have hbulk : Keeps env R (do
      if !sessions.items.isEmpty then
        if ← bulkActions sessions.items filters then
          setCurrent .null
          rerun) fun _ => True := by
    split_ifs
    · refine .seq (h.keeps_bulkActions _ _) fun deleted => ?_
      cases deleted with
      | true => exact .seq (h.keeps_put _ _) fun _ => .rerun
      | false => exact .returns _
    · exact .returns _
  rcases action with _ | ⟨action, id⟩
  · exact hbulk
  · refine .seq (h.keeps_act (haction _ rfl)) fun current => ?_
    refine .seq (h.keeps_put _ _) fun _ => ?_
    exact .seq .rerun fun _ => hbulk

theorem keeps_overview (filters : Filters) : Keeps env R (overview filters) fun _ => True := by
  unfold overview
  refine .seq (h.keeps_showOverviewStatistics filters) fun _ => ?_
  refine .seq (Draws.write _ _).keeps fun _ => ?_
  refine .bind Draws.read.keeps fun env' _ => ?_
  refine .seq (h.keeps_sessionsQuery _ _) fun query => ?_
  refine .bind (.ask (h.ask_listSessions query)) fun answer _ => ?_
  cases answer with
  | ok sessions => exact h.keeps_showSessionPage _ _ _
  | error f => exact (Draws.write _ _).keeps

end Overview

theorem keeps_assistant {keys : List ApiKey} {id : Json} {logs : List Log} {query : Dict Json}
    (hsent : env.Sends (.listMessages (.entries query))) :
    Keeps env R (assistant keys id logs) fun _ => True := by
  unfold assistant
  refine .seq (Draws.write _ _).keeps fun _ => ?_
  refine .seq (.seq (h.keeps_selectbox _ _ _ _ _ _) fun _ => .returns _) fun keyId => ?_
  refine .bind (Draws.button _ _ _ _).keeps fun pressed hpressed => ?_
  extract_lets talk rest
  have htalk (r : Unit) : Keeps env R (talk r) fun _ => True :=
    .seq (Draws.write _ _).keeps fun _ => .bind Draws.read.keeps fun _ _ =>
      .bind (.ofExcept _ _) fun context _ => h.converse hsent context keyId
  have hrest (r : Unit) : Keeps env R (rest r) fun _ => True := by
    refine .seq Draws.getState.keeps fun state => ?_
    split
    · exact .seq (draws_showSummary _).keeps htalk
    · exact htalk ()
  cases pressed with
  | false => exact hrest ()
  | true =>
    have hbutton : env.pressed "Summarize session" := by simpa using hpressed.symm
    refine .seq (Draws.container _ _ _).keeps fun spinner => ?_
    refine .seq (.within _ (.bind (.ask (h.ask_summarize (.inl hbutton) _)) fun answer _ => ?_))
      hrest
    cases answer with
    | ok s => exact .store (h.set_summary s)
    | error f => exact (Draws.write _ _).keeps

theorem keeps_detail (keys : List ApiKey) : Keeps env R (detail keys) fun _ => True := by
  unfold detail
  refine .seq Draws.getState.keeps fun state => ?_
  dsimp only
  split_ifs
  · exact (Draws.write _ _).keeps
  refine .seq (Draws.post _).keeps fun _ => ?_
  refine .bind Draws.read.keeps fun env' _ => ?_
  refine .bind (.ask (h.ask_listMessages _)) fun answer hsent => ?_
  cases answer with
  | error f => exact (Draws.write _ _).keeps
  | ok logs =>
    refine .seq (Draws.row _ _ _).keeps fun columns => ?_
    refine .seq (.within _ (draws_showLogs _ _).keeps) fun _ => ?_
    exact .within _ (h.keeps_assistant (hsent logs rfl))

section Maintenance

theorem keeps_summarizeWindow (filters : Filters) (keys : List ApiKey) :
    Keeps env R (summarizeWindow filters keys) fun _ => True := by
  unfold summarizeWindow
  refine .seq (Draws.write _ _).keeps fun _ => ?_
  refine .seq (Draws.write _ _).keeps fun _ => ?_
  refine .seq (.seq (h.keeps_selectbox _ _ _ _ _ _) fun _ => .returns _) fun keyId => ?_
  refine .bind (Draws.button _ _ _ _).keeps fun pressed hpressed => ?_
  cases pressed with
  | false => exact .returns _
  | true =>
    have hbutton : env.pressed "Summarize window" := by simpa using hpressed.symm
    refine .seq (.bind Draws.read.keeps fun env' _ => .bind (.ofExcept _ _) fun window _ =>
      .returns _) fun body => ?_
    refine .seq (Draws.container _ _ _).keeps fun spinner => ?_
    refine .within _ (.bind (.ask (h.ask_summarize (.inr hbutton) _)) fun answer _ => ?_)
    cases answer with
    | ok s => exact (draws_showSummary s).keeps
    | error f => exact (Draws.write _ _).keeps

theorem keeps_exportSessions (filters : Filters) :
    Keeps env R (exportSessions filters) fun _ => True := by
  unfold exportSessions
  refine .bind (Draws.button _ _ _ _).keeps fun pressed hpressed => ?_
  extract_lets rest
  have hrest (r : Unit) : Keeps env R (rest r) fun _ => True := by
    refine .seq Draws.getState.keeps fun state => ?_
    split
    · exact (draws_download _ _).keeps
    · exact .returns _
  cases pressed with
  | false => exact hrest ()
  | true =>
    refine .bind (.ask (h.ask_exportSessions (by simpa using hpressed.symm) _)) fun answer _ => ?_
    cases answer with
    | ok f => exact .seq (.store (h.set_sessionsExport f)) hrest
    | error f => exact .seq (Draws.write _ _).keeps hrest

theorem keeps_exportLogs (filters : Filters) : Keeps env R (exportLogs filters) fun _ => True := by
  unfold exportLogs
  refine .bind (Draws.button _ _ _ _).keeps fun pressed hpressed => ?_
  extract_lets rest
  have hrest (r : Unit) : Keeps env R (rest r) fun _ => True := by
    refine .seq Draws.getState.keeps fun state => ?_
    split
    · exact (draws_download _ _).keeps
    · exact .returns _
  cases pressed with
  | false => exact hrest ()
  | true =>
    refine .seq (Draws.container _ _ _).keeps fun spinner => ?_
    refine .seq (.within _ (.bind (.ask (h.ask_exportLogs (by simpa using hpressed.symm) _))
      fun answer _ => ?_)) hrest
    cases answer with
    | ok f => exact .store (h.set_logsExport f)
    | error f => exact (Draws.write _ _).keeps

theorem keeps_deleteLogs (filters : Filters) : Keeps env R (deleteLogs filters) fun _ => True := by
  unfold deleteLogs
  refine .seq (Draws.write _ _).keeps fun _ => ?_
  refine .bind (h.keeps_checkbox _ _ _) fun confirmed hconfirmed => ?_
  refine .bind (Draws.button _ _ _ _).keeps fun pressed hpressed => ?_
  cases pressed with
  | false => exact .returns _
  | true =>
    have hboth : env.pressed "Delete matching logs" ∧ confirmed := by simpa using hpressed.symm
    refine .bind Draws.read.keeps fun env' _ => ?_
    refine .bind (.ofExcept _ _) fun body _ => ?_
    refine .bind (.ask (h.ask_deleteLogs (hconfirmed ▸ hboth.2) hboth.1 body)) fun answer _ => ?_
    cases answer with
    | ok d => exact .seq (Draws.write _ _).keeps fun _ => .returns _
    | error f => exact .seq (Draws.write _ _).keeps fun _ => .returns _

theorem keeps_maintenance (filters : Filters) (keys : List ApiKey) :
    Keeps env R (maintenance filters keys) fun _ => True := by
  unfold maintenance
  refine .seq (h.keeps_summarizeWindow filters keys) fun _ => ?_
  refine .seq (Draws.write _ _).keeps fun _ => ?_
  refine .seq (Draws.write _ _).keeps fun _ => ?_
  refine .seq (.seq (Draws.row _ _ _).keeps fun columns =>
    .seq (.within _ (h.keeps_exportSessions _)) fun _ => .within _ (h.keeps_exportLogs _))
      fun _ => ?_
  refine .seq (Draws.write _ _).keeps fun _ => ?_
  refine .seq (Draws.write _ _).keeps fun _ => ?_
  refine .seq (h.keeps_deleteLogs _) fun deleted => ?_
  cases deleted with
  | true => exact h.keeps_put _ _
  | false => exact .returns _

end Maintenance

/-- A run of the page does nothing else. -/
theorem keeps_page : Keeps env R page fun _ => True := by
  unfold page
  refine .bind Draws.read.keeps fun env' _ => ?_
  refine .seq (Draws.post _).keeps fun _ => ?_
  refine .seq (.store h.init) fun _ => ?_
  refine .seq (Draws.post _).keeps fun _ => ?_
  refine .seq h.keeps_loadKeys fun keys => ?_
  refine .bind (draws_sidebar _ _).keeps fun filters _ => ?_
  refine .seq (Draws.row _ _ _).keeps fun tabs => ?_
  refine .seq (.within _ (h.keeps_overview filters)) fun _ => ?_
  refine .seq (.within _ (h.keeps_detail keys)) fun _ => ?_
  exact .within _ (h.keeps_maintenance filters keys)

end Permits

end ChatAudit.Console
