import ChatAudit.Record.Scalar
import ChatAudit.Record.Fields

/-! How much a deletion took away. -/
namespace ChatAudit
open Record

structure Deletion where
  logs : Int
  sessions : Int
deriving DecidableEq, Repr

def Deletion.read (d : Dict Json) : Checked Deletion :=
  Deletion.mk <$> optional "logs_deleted" 0 integer d <*>
    optional "sessions_deleted" 0 integer d

end ChatAudit
