import ChatAudit.Payload.Field

/-! The kinds of requests and the fields of each. -/
namespace ChatAudit.Payload

inductive Form
  | sessions
  | messages
  | logs
  | logDeletion
  | sessionDeletion
  | summary
  | conversation
deriving DecidableEq, Repr

/-- The keyword may also be given by its full name. -/
def keyword : Field := { key := "q", alternative := some "query", kind := .text }

def int (key : String) : Field := { key, kind := .integer }
def txt (key : String) : Field := { key, kind := .text }
def inst (key : String) : Field := { key, kind := .instant }

def logRestrictions : List Field :=
  [inst "start_time", inst "end_time", txt "session_id", int "user_id", int "api_key_id",
    int "account_id", int "group_id", txt "platform", txt "model", txt "request_path"]

def Form.fields : Form → List Field
  | .sessions =>
    [int "page", int "page_size", inst "start_time", inst "end_time", txt "time_range", keyword,
      txt "session_id", txt "platform", txt "model", int "user_id", int "api_key_id"]
  | .messages =>
    [txt "session_id", int "page", int "page_size", int "user_id", int "api_key_id"]
  | .logs => logRestrictions ++ [int "page", int "page_size", txt "time_range"]
  | .logDeletion => logRestrictions
  | .sessionDeletion =>
    [{ key := "session_ids", kind := .texts }, int "user_id", int "api_key_id", int "account_id",
      int "group_id", { key := "select_all", kind := .truth, default := some (.truth false) },
      inst "start_time", inst "end_time", keyword, txt "platform", txt "model"]
  | .summary =>
    [inst "start_time", inst "end_time", int "user_id", int "api_key_id", txt "session_id",
      int "ai_api_key_id"]
  | .conversation =>
    [{ key := "messages", kind := .turns, default := some (.turns []) }, txt "context",
      txt "model", int "ai_api_key_id"]

end ChatAudit.Payload
