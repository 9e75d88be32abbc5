import ChatAudit.Record.Scalar
import ChatAudit.Record.Fields

/-! Counts over a window of time. -/
namespace ChatAudit
open Record

/-- The part of the requests that one platform had. -/
structure PlatformShare where
  count : Int
  ratio : Binary64
deriving DecidableEq, Repr

def PlatformShare.read (d : Dict Json) : Checked PlatformShare :=
  PlatformShare.mk <$> optional "count" 0 integer d <*>
    optional "ratio" (Binary64.zero false) number d

structure Statistics where
  startTime : Timestamp
  endTime : Timestamp
  requestCount : Int
  sessionCount : Int
  requestsPerDay : Binary64
  sessionsPerDay : Binary64
  estimatedBytes : Int
  tableBytes : Int
  platformShare : Dict PlatformShare
  /-- What the shares count. -/
  shareBasis : String
deriving DecidableEq, Repr

def Statistics.read (d : Dict Json) : Checked Statistics :=
  Statistics.mk <$> required "start_time" instant d <*> required "end_time" instant d <*>
    optional "request_count" 0 integer d <*> optional "session_count" 0 integer d <*>
    optional "avg_requests_per_day" (Binary64.zero false) number d <*>
    optional "avg_sessions_per_day" (Binary64.zero false) number d <*>
    optional "estimated_bytes" 0 integer d <*> optional "table_bytes" 0 integer d <*>
    optional "platform_share" [] (dict (record PlatformShare.read)) d <*>
    optional "platform_share_basis" "request" text d

end ChatAudit
