import ChatAudit.Api.Failure
import ChatAudit.Net.Url
import ChatAudit.Payload.Basic

/-! Why a call could not be made at all, or failed. -/
namespace ChatAudit.Api
open Record Text

inductive Fault
  | failed (failure : Failure)
  /-- The argument is not the record that the operation takes. -/
  | invalid (form : Payload.Form) (issues : List Issue)
  | url (fault : Url.Fault)
  /-- The address that was called has no scheme. -/
  | scheme (url : String)
  /-- The token is not ASCII from position `start` to position `stop` of its header. -/
  | token (start stop : Nat) (first : Char)
  /-- The body holds a number that is not finite. -/
  | body

/-- The text of a fault that is neither a failure nor an invalid argument. -/
def Fault.message : Fault → String
  | .failed f => f.message.display
  | .invalid _ issues => Failure.issueCount issues.length
  | .url f => f.message
  | .scheme address => "unknown url type: " ++ quoted address
  | .token start stop first =>
    "'ascii' codec can't encode " ++
      (if stop = start + 1 then
        "character '" ++ String.ofList (escapeCode first.toNat) ++ "' in position " ++
          toString start
      else "characters in position " ++ toString start ++ "-" ++ toString (stop - 1)) ++
      ": ordinal not in range(128)"
  | .body => "Out of range float values are not JSON compliant"

end ChatAudit.Api
