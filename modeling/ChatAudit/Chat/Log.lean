import ChatAudit.Record.Scalar
import ChatAudit.Record.Fields

/-! Recorded exchanges with a model. -/
namespace ChatAudit
open Record

structure Message where
  role : String
  content : String
  /-- The side of the exchange that the message belongs to. -/
  source : String
  index : Int
deriving DecidableEq, Repr

def Message.read (d : Dict Json) : Checked Message :=
  Message.mk <$> required "role" text d <*> optional "content" "" text d <*>
    optional "source" "request" text d <*> optional "index" 0 integer d

structure Log where
  id : Int
  sessionId : String
  requestId : Option String
  clientRequestId : Option String
  userId : Option Int
  apiKeyId : Option Int
  accountId : Option Int
  groupId : Option Int
  platform : Option String
  model : Option String
  requestPath : Option String
  stream : Bool
  statusCode : Option Int
  messages : List Message
  createdAt : Timestamp
deriving DecidableEq, Repr

def Log.read (d : Dict Json) : Checked Log :=
  Log.mk <$> required "id" integer d <*> required "session_id" text d <*>
    nullable "request_id" text d <*> nullable "client_request_id" text d <*>
    nullable "user_id" integer d <*> nullable "api_key_id" integer d <*>
    nullable "account_id" integer d <*> nullable "group_id" integer d <*>
    nullable "platform" text d <*> nullable "model" text d <*>
    nullable "request_path" text d <*> optional "stream" false truth d <*>
    nullable "status_code" integer d <*>
    optional "messages" [] (listOrNull (record Message.read)) d <*>
    required "created_at" instant d

end ChatAudit
