import ChatAudit.Api.Request
import ChatAudit.Api.Reply
import ChatAudit.Chat.ApiKey
import ChatAudit.Chat.Deletion
import ChatAudit.Chat.Log
import ChatAudit.Chat.Page
import ChatAudit.Chat.Session
import ChatAudit.Chat.Statistics
import ChatAudit.Chat.Summary
import ChatAudit.Export.File
import ChatAudit.Json.Document
import ChatAudit.Net.Disposition
import ChatAudit.Net.Status

/-! What the gateway can be asked, and how its answers are read. -/
namespace ChatAudit.Api
open Record

/-- Filters or a body as the caller has them. -/
inductive Argument
  | nothing
  | entries (d : Dict Json)
  /-- A record that is checked already, in its wire form. -/
  | wire (d : Dict Json)

/-- The wire form of an argument; plain entries are checked as the record `form`. -/
def Argument.resolve (form : Payload.Form) : Argument → Except Fault (Dict Json)
  | .nothing => .ok []
  | .wire d => .ok d
  | .entries d =>
    match Payload.read form d with
    | .accepted p => .ok p.wire
    | .rejected issues => .error (.invalid form issues)

inductive Operation
  | listSessions (filters : Argument)
  /-- User and key restrict the deletion unless they are null. -/
  | deleteSession (id : String) (userId apiKeyId : Json)
  | deleteSessions (body : Argument)
  | exportSessions (filters : Argument)
  | listMessages (filters : Argument)
  | listLogs (filters : Argument)
  | exportLogs (filters : Argument)
  | deleteLogs (body : Argument)
  | statistics (filters : Argument)
  | summarize (body : Argument)
  | converse (body : Argument)
  | listApiKeys
  /-- Any request at all. -/
  | plain (call : Call)

namespace Operation

@[reducible] def Answer : Operation → Type
  | listSessions _ => Page Session
  | deleteSession .. | deleteSessions _ | deleteLogs _ => Deletion
  | exportSessions _ | exportLogs _ => File
  | listMessages _ | listLogs _ => Page Log
  | statistics _ => Statistics
  | summarize _ | converse _ => Summary
  | listApiKeys => List ApiKey
  | plain _ => Json

/-- The path that all operations lie below. -/
def root : String := "/admin/security"

def get (path : String) (form : Payload.Form) (filters : Argument) : Except Fault Call := do
  return { method := "GET", path := root ++ path, params := some (← filters.resolve form) }

def post (path : String) (form : Payload.Form) (body : Argument) : Except Fault Call := do
  return { method := "POST", path := root ++ path, body := some (← body.resolve form) }

/-- The path of one session. -/
def sessionPath (id : String) : String :=
  root ++ "/sessions/" ++ String.ofList (Percent.encode id.toList)

def call : Operation → Except Fault Call
  | listSessions f => get "/sessions" .sessions f
  | deleteSession id userId apiKeyId => .ok {
      method := "DELETE"
      path := sessionPath id
      params := some ([("user_id", userId), ("api_key_id", apiKeyId)].filter fun e => !e.2.isNull) }
  | deleteSessions b => post "/sessions/bulk-delete" .sessionDeletion b
  | exportSessions f => get "/sessions/export" .sessions f
  | listMessages f => get "/messages" .messages f
  | listLogs f => do return { ← get "/logs" .logs f with patient := true }
  | exportLogs f => do return { ← get "/logs/export" .logs f with patient := true }
  | deleteLogs b => post "/logs/delete" .logDeletion b
  | statistics f => get "/stats" .logs f
  | summarize b => post "/summarize" .summary b
  | converse b => post "/ai-chat" .conversation b
  | listApiKeys => .ok { method := "GET", path := root ++ "/api-keys" }
  | plain c => .ok c

end Operation

/-- The text of an error response: what its object says, else its body, else its status. -/
def errorDetail (r : Response) (url : String) : Json × Json :=
  let text := if r.body.isEmpty then "" else r.text
  let text := if text == "" then
      Status.describe r.status url
        (if Status.isRedirect r.status then r.header? "location" else none)
    else text
  match Json.readBytes? r.body with
  | some (.obj es) =>
    let entry (key : String) := (Dict.lookup? key es).getD .null
    (((entry "message").orElse (entry "detail")).orElse (.str text), entry "code")
  | _ => (.str text, .null)

def checkStatus (r : Response) (url : String) : Except Failure Unit :=
  if Status.isSuccess r.status then .ok ()
  else
    let (detail, code) := errorDetail r url
    .error (.status r.status detail code)

/-- Whether an object wraps the answer together with a code. -/
def isEnvelope (es : Dict Json) : Bool := es.has "code" && (es.has "data" || es.has "message")

/-- No code and a code of zero stand for success. -/
def isSuccessCode (code : Json) : Bool := code.isNull || code.equal (.int 0)

/-- The answer itself, out of its envelope if it has one. -/
def unwrap (status : Int) : Json → Except Failure Json
  | .obj es =>
    let entry (key : String) := (Dict.lookup? key es).getD .null
    if !isEnvelope es then .ok (.obj es)
    else if isSuccessCode (entry "code") then .ok (entry "data")
    else .error (.refused status (entry "message") (entry "code"))
  | v => .ok v

def readBody (r : Response) (url : String) : Except Failure Json := do
  checkStatus r url
  match Json.readBytes? r.body with
  | some v => unwrap r.status v
  | none => .error (.notJson r.status)

/-- An answer that must be the record `title`; null stands for `empty`. -/
def readRecord {α : Type} (title : String) (empty : Json) (read : Reader α) (r : Response)
    (url : String) : Except Failure α := do
  let v ← readBody r url
  match read (if v.isNull then empty else v) with
  | .accepted a => .ok a
  | .rejected issues => .error (.mismatch r.status title issues)

def readFile (default : String) (r : Response) (url : String) : Except Failure File := do
  checkStatus r url
  return {
    filename := Disposition.filename (r.header? "content-disposition") default
    contentType := (r.header? "content-type").getD "application/octet-stream"
    content := r.body
    truncated := Text.lower ((r.header? "x-export-truncated").getD "") == "true" }

/-- How the response to an operation is read. -/
def Operation.answer : (op : Operation) → Response → String → Except Failure op.Answer
  | listSessions _ =>
    readRecord "SecurityChatSessionList" (.obj []) (record (Page.read Session.read))
  | deleteSession .. | deleteSessions _ | deleteLogs _ =>
    readRecord "DeleteResult" (.obj []) (record Deletion.read)
  | exportSessions _ => readFile "security_sessions.csv"
  | exportLogs _ => readFile "security_logs.txt.zip"
  | listMessages _ | listLogs _ =>
    readRecord "SecurityChatLogList" (.obj []) (record (Page.read Log.read))
  | statistics _ => readRecord "SecurityChatStats" (.obj []) (record Statistics.read)
  | summarize _ | converse _ =>
    readRecord "SecurityChatSummary" (.obj []) (record Summary.read)
  | listApiKeys => readRecord "list[SecurityApiKey]" (.arr []) (list (record ApiKey.read))
  | plain _ => readBody

end ChatAudit.Api
