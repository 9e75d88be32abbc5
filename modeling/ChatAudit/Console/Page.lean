import ChatAudit.Console.Maintenance
import ChatAudit.Console.SessionList
import ChatAudit.Console.StatisticsView

/-! The whole page, as one run draws it. -/
namespace ChatAudit.Console
open Panel

/-- The keys that the user may choose from; they are loaded once. -/
def loadKeys : Panel (List ApiKey) := do
  match (← getState).apiKeys with
  | some (some keys) => return keys
  | _ =>
    match ← ask .listApiKeys with
    | .ok keys =>
      modifyState fun s => { s with apiKeys := some (some keys) }
      return keys
    | .error f =>
      post {
        target := "sidebar", function := "error"
        arguments := [.value (.str ("Failed to load API keys: " ++ f.message.display))] }
      return []

def sessionsKey : String := "sessions"

/-- The page of sessions that is stored. -/
def storedPage : Panel Json := return (← getState).value (Pager.pageKey sessionsKey)

/-- Moves the stored page by `n` and runs again. -/
def turnPage (n : Int) : Panel Unit := do
  let stored ← storedPage
  match stored.plus? n with
  | some page => modifyState (·.put (Pager.pageKey sessionsKey) page)
  | none => fail (.page ⟨if n < 0 then "-=" else "+=", stored⟩)
  rerun

/-- A button that is off while `isOff` holds of the stored page. -/
def pageButton (label operator : String) (isOff : Json → Option Bool) : Panel Bool := do
  let stored ← storedPage
  match isOff stored with
  | some off => button label none (some off)
  | none => fail (.page ⟨operator, stored⟩)

/-- Steps to the pages before and after, if there is more than one. -/
def pageSteps (total size : Int) : Panel Unit := do
  if size = 0 || total ≤ size then return
  let pages := Pager.pageCount total size
  let columns ← columnsBy [1, 2, 1]
  within (columns.getD 0 "") do
    if ← pageButton "Previous" "<=" fun p => (p.above? 1).map (!·) then turnPage (-1)
  within (columns.getD 1 "") do
    write "caption" ["Page " ++ (← storedPage).display ++ " of " ++ toString pages]
  within (columns.getD 2 "") do
    if ← pageButton "Next" ">=" (·.atLeast? pages) then turnPage 1

def showOverviewStatistics (filters : Filters) : Panel Unit := do
  match ← ask (.statistics (.entries filters.forLogs)) with
  | .ok s => showStatistics s
  | .error f => error "Failed to load statistics" f

/-- What the session list asks for: the filters, a page and its size. -/
def sessionsQuery (filters : Filters) (size : Int) : Panel Filters := do
  modifyState fun s => { s with values := Pager.sync filters sessionsKey s.values }
  return (filters.put "page" (← storedPage)).put "page_size" (.int size)

/-- Brings the stored page back into range; the list is loaded again if it was out of it. -/
def clampPage (total size : Int) : Panel Unit := do
  match Pager.clamp total size sessionsKey (← getState).values with
  | .error f => fail (.page f)
  | .ok (moved, values) =>
    modifyState fun s => { s with values }
    if moved then rerun

def setCurrent (id : Json) : Panel Unit := modifyState (·.put "current_session_id" id)

def showSessionPage (sessions : Page Session) (filters : Filters) (size : Int) : Panel Unit := do
  clampPage sessions.total size
  write "subheader" ["Sessions (" ++ toString sessions.total ++ ")"]
  pageSteps sessions.total size
  let current := (← getState).value "current_session_id"
  if let some (action, id) ← showSessions sessions.items current then
    setCurrent (← act action.name (.str id))
    rerun
  if !sessions.items.isEmpty then
    if ← bulkActions sessions.items filters then
      setCurrent .null
      rerun

def overview (filters : Filters) : Panel Unit := do
  showOverviewStatistics filters
  write "divider"
  let defaultSize := (← read).settings.sessionsPageSize
  match ← ask (.listSessions (.entries (← sessionsQuery filters defaultSize))) with
  | .error f => error "Failed to load sessions" f
  | .ok sessions =>
    showSessionPage sessions filters (if sessions.size = 0 then defaultSize else sessions.size)

/-- The assistant beside the logs of a session. -/
def assistant (keys : List ApiKey) (id : Json) (logs : List Log) : Panel Unit := do
  write "subheader" ["AI assistant"]
  let keyId ← chooseAssistantKey keys
  if ← button "Summarize session" none none [("type", .str "primary")] then
    let spinner ← container "spinner" ["Summarizing..."]
    within spinner do
      match ← ask (.summarize (.entries [("session_id", id), ("ai_api_key_id", ofId keyId)])) with
      | .ok s => modifyState fun st => { st with summary := some (some s) }
      | .error f => error "Summary failed" f
  if let some (some s) := (← getState).summary then showSummary s
  write "divider"
  conversation (← ofExcept .shift (transcript (← read).zone logs)) keyId

def showDetail (keys : List ApiKey) (id : Json) (logs : Page Log) : Panel Unit := do
  let columns ← columnsBy [3, 2]
  within (columns.getD 0 "") (showLogs logs.items logs.total)
  within (columns.getD 1 "") (assistant keys id logs.items)

/-- The selected session. -/
def detail (keys : List ApiKey) : Panel Unit := do
  let id := (← getState).value "current_session_id"
  if !id.present then write "info" ["Select a session in the overview to inspect its logs."]
  else
    post { target := "", function := "header", arguments := [.value id] }
    let size := (← read).settings.messagesPageSize
    match ← ask (.listMessages (.entries [("session_id", id), ("page_size", .int size)])) with
    | .error f => error "Failed to load logs" f
    | .ok logs => showDetail keys id logs

/-- One run: the sidebar and three tabs. -/
def page : Panel Unit := do
  let settings := (← read).settings
  post {
    target := "", function := "set_page_config"
    options := textOptions [("page_title", .str settings.pageTitle),
      ("page_icon", .str settings.pageIcon), ("layout", .str settings.layout),
      ("initial_sidebar_state", .str "expanded")] }
  modifyState State.init
  post { target := "sidebar", function := "title", arguments := [.value (.str settings.pageTitle)] }
  let keys ← loadKeys
  let filters ← sidebar keys settings.defaultTimeRange
  let titles := ["Overview", "Session", "Maintenance"]
  let tabs ← row "tabs" (.arr (titles.map .str)) titles.length
  within (tabs.getD 0 "") (overview filters)
  within (tabs.getD 1 "") (detail keys)
  within (tabs.getD 2 "") (maintenance filters keys)

/-- Runs a panel on what the runs before have left. -/
def run {α : Type} (p : Panel α) (env : Env) (state : State) : Except Stop α × Screen :=
  (p env).run.run { state }

/-- The client for the gateway that the settings name. -/
def clientOf (settings : Settings) : Api.Client :=
  .create settings.apiBaseUrl (if settings.apiToken == "" then none else some settings.apiToken)
    (.int settings.requestTimeout)

end ChatAudit.Console
