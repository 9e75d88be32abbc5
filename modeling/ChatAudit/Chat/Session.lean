import ChatAudit.Record.Scalar
import ChatAudit.Record.Fields

/-! Chat sessions, each with one or more logs. -/
namespace ChatAudit
open Record

structure Session where
  sessionId : String
  userId : Option Int
  userEmail : Option String
  apiKeyId : Option Int
  accountId : Option Int
  groupId : Option Int
  platform : Option String
  model : Option String
  messagePreview : Option String
  lastAt : Timestamp
  requestCount : Int
deriving DecidableEq, Repr

def Session.read (d : Dict Json) : Checked Session :=
  Session.mk <$> required "session_id" text d <*> nullable "user_id" integer d <*>
    nullable "user_email" text d <*> nullable "api_key_id" integer d <*>
    nullable "account_id" integer d <*> nullable "group_id" integer d <*>
    nullable "platform" text d <*> nullable "model" text d <*>
    nullable "message_preview" text d <*> required "last_at" instant d <*>
    optional "request_count" 0 integer d

end ChatAudit
