import ChatAudit.Record.Scalar
import ChatAudit.Record.Fields

/-! Keys that calls to the assistant may be charged to. -/
namespace ChatAudit
open Record

structure ApiKey where
  id : Int
  name : String
  groupId : Option Int
  status : String
deriving DecidableEq, Repr

def ApiKey.read (d : Dict Json) : Checked ApiKey :=
  ApiKey.mk <$> required "id" integer d <*> required "name" text d <*>
    nullable "group_id" integer d <*> required "status" text d

end ChatAudit
