import ChatAudit.Calendar.Zone
import ChatAudit.Chat.Log
import ChatAudit.Text.Excerpt

/-! Logs as plain text. -/
namespace ChatAudit

def Message.isResponse (m : Message) : Bool := m.source == "response"

namespace Log

/-- The messages by index, those of the request and those of the response. Messages of one index
keep their order. -/
def exchange (l : Log) : List Message × List Message :=
  let sorted := l.messages.mergeSort fun a b => a.index ≤ b.index
  (sorted.filter fun m => !m.isResponse, sorted.filter Message.isResponse)

def blankOr (v : Option String) : String := v.getD ""
def blankOrInt (v : Option Int) : String := v.elim "" toString

def header (l : Log) (createdAt : String) : List String := [
  "----",
  "id: " ++ toString l.id,
  "created_at: " ++ createdAt,
  "session_id: " ++ l.sessionId,
  "request_id: " ++ blankOr l.requestId,
  "client_request_id: " ++ blankOr l.clientRequestId,
  "user_id: " ++ blankOrInt l.userId,
  "api_key_id: " ++ blankOrInt l.apiKeyId,
  "account_id: " ++ blankOrInt l.accountId,
  "group_id: " ++ blankOrInt l.groupId,
  "platform: " ++ blankOr l.platform,
  "model: " ++ blankOr l.model,
  "request_path: " ++ blankOr l.requestPath,
  "status_code: " ++ blankOrInt l.statusCode,
  "stream: " ++ (if l.stream then "true" else "false"),
  "messages:"]

/-- A mark with index, source and role, the content unless it is empty, and an empty line. -/
def messageLines (m : Message) : List String :=
  ["[" ++ toString m.index ++ "][" ++ m.source ++ "][" ++ m.role ++ "]"] ++
    (if m.content = "" then [] else [m.content]) ++ [""]

/-- The lines of one log: a header and the messages as they are stored. -/
def lines (l : Log) (createdAt : String) : List String :=
  l.header createdAt ++ l.messages.flatMap messageLines ++ [""]

def textOf (lines : List String) : String := String.join (lines.map (· ++ "\n"))

/-- The block of one log; a time without an offset is taken for one of the zone. -/
def text (zone : Zone) (l : Log) : Except Timestamp.ShiftFault String := do
  return textOf (l.lines (← l.createdAt.toUtc zone).stamp)

end Log

/-- The blocks of all logs, cut to `limit` characters. -/
def transcript (zone : Zone) (logs : List Log) (limit : Int := 20000) :
    Except Timestamp.ShiftFault String := do
  return Text.excerpt limit (String.join (← logs.mapM (Log.text zone)))

end ChatAudit
