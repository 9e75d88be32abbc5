import ChatAudit.Record.Scalar
import ChatAudit.Record.Fields

/-! What the assistant says about a session, or replies in a conversation. -/
namespace ChatAudit
open Record

structure Summary where
  summary : String
  sensitiveFindings : Option (List String)
  riskLevel : Option String
  recommendedActions : Option (List String)
deriving DecidableEq, Repr

def Summary.read (d : Dict Json) : Checked Summary :=
  Summary.mk <$> optional "summary" "" text d <*>
    nullable "sensitive_findings" (list text) d <*> nullable "risk_level" text d <*>
    nullable "recommended_actions" (list text) d

end ChatAudit
