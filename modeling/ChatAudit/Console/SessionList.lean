import ChatAudit.Console.LogView
import ChatAudit.Console.Sidebar
import ChatAudit.Text.Excerpt

/-! The list of sessions: selection and deletion. -/
namespace ChatAudit.Console
open Panel

inductive Action
  | select
  | delete
deriving DecidableEq, Repr

def Action.name : Action → String
  | .select => "select"
  | .delete => "delete"

def bulkKey (id : String) : String := "bulk_" ++ id

/-- A text that is there and not empty. -/
def given? (s : Option String) : Option String := s.filter (· != "")

def owner (s : Session) : String :=
  match given? s.userEmail, s.userId with
  | some email, _ => email
  | none, some 0 | none, none => "unknown user"
  | none, some id => "user #" ++ toString id

def sessionTitle (s : Session) : String :=
  Text.excerpt 80 ((given? s.messagePreview).getD s.sessionId)

def sessionCaption (s : Session) : String :=
  toString s.requestCount ++ " requests | " ++ owner s ++ " | " ++ orDash s.platform ++ " / " ++
    orDash s.model ++ " | " ++ s.lastAt.display

/-- One session, and what the user wants done with it. -/
def showSession (s : Session) (current : Json) : Panel (Option Action) := do
  let isCurrent := current.equal (.str s.sessionId)
  let c ← container "container"
  within c do
    let columns ← columnsBy [1, 10, 1]
    let column (i : Nat) := columns.getD i ""
    within (column 0) do
      let _ ← checkbox "Select" (some (bulkKey s.sessionId))
        [("label_visibility", .str "collapsed")]
    let selected ← within (column 1) do
      let selected ← button (sessionTitle s) (some ("session_" ++ s.sessionId)) none
        [("use_container_width", .bool true),
          ("type", .str (if isCurrent then "primary" else "secondary"))]
      if !selected then write "caption" [sessionCaption s]
      return selected
    if selected then return some .select
    within (column 2) do
      let deleted ← button "X" (some ("delete_" ++ s.sessionId)) none
        [("help", .str "Delete session")]
      return if deleted then some .delete else none

/-- The sessions up to the first one that something is to be done with. -/
def firstAction (current : Json) : List Session → Panel (Option (Action × String))
  | [] => pure none
  | s :: rest => do
    match ← showSession s current with
    | some a => return some (a, s.sessionId)
    | none => firstAction current rest

def showSessions (sessions : List Session) (current : Json) : Panel (Option (Action × String)) := do
  if sessions.isEmpty then
    write "info" ["No chat sessions in this time range"]
    return none
  firstAction current sessions

/-- The sessions whose boxes are ticked. -/
def selectedIds (sessions : List Session) : Panel (List String) := do
  let state ← getState
  return (sessions.map (·.sessionId)).filter fun id => (state.value (bulkKey id)).present

/-- Deletes sessions and says whether that worked. -/
def deleteSessions (body : Dict Json) : Panel Bool := do
  match ← ask (.deleteSessions (.entries body)) with
  | .ok d =>
    write "success" ["Deleted " ++ toString d.sessions ++ " sessions (" ++ toString d.logs ++
      " logs)"]
    return true
  | .error f =>
    error "Bulk delete failed" f
    return false

/-- The body that deletes all that the filters select. -/
def deleteAllBody (filters : Filters) : Panel (Dict Json) := do
  let body ← ofExcept .filters (filters.forBody (← read).now)
  if body.has "select_all" then fail .selectionTwice
  return ("select_all", .bool true) :: body

/-- Deletion of the ticked sessions or of all that the filters select; says whether any were. -/
def bulkActions (sessions : List Session) (filters : Filters) : Panel Bool := do
  let ids ← selectedIds sessions
  let columns ← columns 2
  let deleteSelected ← within (columns.getD 0 "") do
    let pressed ← button ("Delete selected (" ++ toString ids.length ++ ")") none (some ids.isEmpty)
    if !pressed then return none
    return some (← deleteSessions [("session_ids", .arr (ids.map .str))])
  match deleteSelected with
  | some done => return done
  | none =>
    within (columns.getD 1 "") do
      let confirmed ← checkbox "Confirm delete of all matching sessions"
      let pressed ← button "Delete all matching" none (some !confirmed)
      if !pressed then return false
      deleteSessions (← deleteAllBody filters)

/-- The session that is current after an action. A new selection starts a new conversation. -/
def act (action : String) (id : Json) : Panel Json := do
  let current := (← getState).value "current_session_id"
  if action == Action.select.name then
    modifyState fun s => { s with summary := some none, turns := some [] }
    return id
  if action == Action.delete.name then
    let .str name := id | fail .sessionId
    match ← ask (.deleteSession name .null .null) with
    | .error f =>
      error "Delete failed" f
      return current
    | .ok d =>
      write "toast" ["Deleted " ++ toString d.logs ++ " logs"]
      return if current.equal id then .null else current
  return current

end ChatAudit.Console
