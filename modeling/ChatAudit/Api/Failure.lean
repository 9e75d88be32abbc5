import ChatAudit.Json.Display
import ChatAudit.Record.Checked

/-! Why a call brought no answer. -/
namespace ChatAudit.Api
open Record

inductive Failure
  | transport (reason : String)
  | status (status : Int) (detail code : Json)
  | notJson (status : Int)
  /-- The gateway reports a failure of its own. -/
  | refused (status : Int) (message code : Json)
  /-- The answer is not the record that `title` names. -/
  | mismatch (status : Int) (title : String) (issues : List Issue)

namespace Failure

def issueCount (n : Nat) : String :=
  toString n ++ (if n = 1 then " validation error" else " validation errors")

/-- What is told about the failure; a refusal keeps the words of the gateway as they are. -/
def message : Failure → Json
  | .transport reason => .str ("Connection error: " ++ reason)
  | .status _ detail _ => .str detail.display
  | .notJson _ => .str "Invalid JSON response"
  | .refused _ message code =>
    message.orElse (.str ("Request failed with code " ++ code.display))
  | .mismatch _ title issues =>
    .str ("Invalid response: " ++ issueCount issues.length ++ " for " ++ title)

def status? : Failure → Option Int
  | .transport _ => none
  | .status s .. | .notJson s | .refused s .. | .mismatch s .. => some s

def code : Failure → Json
  | .status _ _ code | .refused _ _ code => code
  | _ => .null

end Failure
end ChatAudit.Api
