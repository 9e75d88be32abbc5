import ChatAudit.Chat.ApiKey
import ChatAudit.Chat.Summary
import ChatAudit.Export.File
import ChatAudit.Json.Basic
import ChatAudit.Payload.Turn

/-! What the console keeps from one run to the next. -/
namespace ChatAudit.Console

/-- An entry that is `none` was never set. -/
structure State where
  /-- The entries that are plain values. -/
  values : Dict Json := []
  /-- The conversation with the assistant. -/
  turns : Option (List Turn) := none
  summary : Option (Option Summary) := none
  apiKeys : Option (Option (List ApiKey)) := none
  sessionsExport : Option (Option File) := none
  logsExport : Option (Option File) := none
deriving Inhabited

namespace State

def value (key : String) (s : State) : Json := (s.values.lookup? key).getD .null

def put (key : String) (v : Json) (s : State) : State := { s with values := s.values.put key v }

/-- Sets what was never set. -/
def init (s : State) : State where
  values :=
    let vs := if s.values.has "current_session_id" then s.values
      else s.values.put "current_session_id" .null
    if vs.has "sessions_page" then vs else vs.put "sessions_page" (.int 1)
  summary := some (s.summary.getD none)
  turns := some (s.turns.getD [])
  apiKeys := some (s.apiKeys.getD none)
  sessionsExport := s.sessionsExport
  logsExport := s.logsExport

end State
end ChatAudit.Console
