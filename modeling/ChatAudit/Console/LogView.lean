import ChatAudit.Chat.Role
import ChatAudit.Chat.Transcript
import ChatAudit.Console.Panel

/-! The logs of a session. -/
namespace ChatAudit.Console
open Panel

def orDash (s : Option String) : String :=
  match s with
  | none | some "" => "-"
  | some s => s

def showMessage (m : Message) : Panel Unit := do
  let c ← container "chat_message" [if m.role == "assistant" then "assistant" else "user"]
  within c do
    write "caption" ["#" ++ toString m.index ++ " " ++ Role.label m.role]
    write "markdown" [m.content]

def showLog (l : Log) : Panel Unit := do
  let title := l.createdAt.display ++ " | " ++ orDash l.model ++ " | status " ++
    l.statusCode.elim "-" toString ++ (if l.stream then " | stream" else "")
  let c ← container "expander" [title] [("expanded", .bool false)]
  within c do
    write "caption" ["Log #" ++ toString l.id ++ " | " ++ orDash l.requestPath ++ " | request " ++
      orDash l.requestId]
    let (request, response) := l.exchange
    request.forM showMessage
    if !response.isEmpty then
      write "divider"
      response.forM showMessage

def showLogs (logs : List Log) (total : Int) : Panel Unit := do
  if logs.isEmpty then write "info" ["No logs recorded for this session"]
  else
    write "markdown" ["**" ++ toString total ++ " log(s) in session**"]
    logs.forM showLog

end ChatAudit.Console
