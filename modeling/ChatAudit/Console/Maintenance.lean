import ChatAudit.Console.Assistant
import ChatAudit.Console.KeyChoice
import ChatAudit.Console.Sidebar

/-! Exports, deletion of logs, and summaries of a window of time. -/
namespace ChatAudit.Console
open Panel

def download (f : File) (label : String) : Panel Unit := do
  if f.truncated then write "warning" ["Export was truncated by the server row limit"]
  post {
    target := "", function := "download_button"
    arguments := [.value (.str label)]
    options := [("data", .bytes f.content), ("file_name", .value (.str f.filename)),
      ("mime", .value (.str f.contentType))] }

def exportSessions (filters : Filters) : Panel Unit := do
  if ← button "Prepare sessions CSV" then
    match ← ask (.exportSessions (.entries filters)) with
    | .ok f => modifyState fun s => { s with sessionsExport := some (some f) }
    | .error f => error "Export failed" f
  if let some (some f) := (← getState).sessionsExport then download f "Download sessions CSV"

def exportLogs (filters : Filters) : Panel Unit := do
  if ← button "Prepare logs archive" then
    let spinner ← container "spinner" ["Exporting logs..."]
    within spinner do
      match ← ask (.exportLogs (.entries filters)) with
      | .ok f => modifyState fun s => { s with logsExport := some (some f) }
      | .error f => error "Export failed" f
  if let some (some f) := (← getState).logsExport then download f "Download logs archive"

def exports (sessionFilters logFilters : Filters) : Panel Unit := do
  let columns ← columns 2
  within (columns.getD 0 "") (exportSessions sessionFilters)
  within (columns.getD 1 "") (exportLogs logFilters)

/-- Deletion of the logs that the filters select; says whether any were. -/
def deleteLogs (filters : Filters) : Panel Bool := do
  write "caption" ["Deletes every log matching the sidebar filters in the selected time range."]
  let confirmed ← checkbox "I understand this cannot be undone" (some "confirm_delete_logs")
  let pressed ← button "Delete matching logs" none (some !confirmed) [("type", .str "primary")]
  if !pressed then return false
  let body ← ofExcept .filters (filters.forBody (← read).now)
  match ← ask (.deleteLogs (.entries body)) with
  | .ok d =>
    write "success" ["Deleted " ++ toString d.logs ++ " logs across " ++ toString d.sessions ++
      " sessions"]
    return true
  | .error f =>
    error "Delete failed" f
    return false

/-- The body that summarizes all that the filters select. -/
def windowBody (filters : Filters) (keyId : Option Int) : Panel (Dict Json) := do
  let window ← ofExcept .filters (filters.forLogs.forBody (← read).now)
  let entry (key : String) := (key, (window.lookup? key).getD .null)
  return [entry "start_time", entry "end_time", entry "user_id", entry "api_key_id",
    ("ai_api_key_id", ofId keyId)]

def summarizeWindow (filters : Filters) (keys : List ApiKey) : Panel Unit := do
  write "subheader" ["Summarize time window"]
  write "caption" ["Summarizes every log matching the sidebar filters."]
  let keyId ← chooseAssistantKey keys "window_ai_api_key"
  if ← button "Summarize window" then
    let body ← windowBody filters keyId
    let spinner ← container "spinner" ["Summarizing..."]
    within spinner do
      match ← ask (.summarize (.entries body)) with
      | .ok s => showSummary s
      | .error f => error "Summary failed" f

def maintenance (filters : Filters) (keys : List ApiKey) : Panel Unit := do
  summarizeWindow filters keys
  write "divider"
  write "subheader" ["Export"]
  exports filters filters.forLogs
  write "divider"
  write "subheader" ["Delete logs"]
  if ← deleteLogs filters.forLogs then modifyState (·.put "current_session_id" .null)

end ChatAudit.Console
