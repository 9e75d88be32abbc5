import ChatAudit.Charset.Basic
import ChatAudit.Net.MediaType
import ChatAudit.Text.Case

/-! What comes back for a request. -/
namespace ChatAudit.Api

/-- A response as the client is handed it. -/
structure Response where
  status : Int
  headers : List (String × String)
  /-- The content, after the content codings of the headers have been undone. -/
  body : List UInt8

/-- What an exchange with the gateway came to. -/
inductive Reply
  /-- The exchange failed for the reason given: the request could not be brought to the gateway, no
  response came back, or the content of one could not be decoded. -/
  | lost (reason : String)
  | response (r : Response)

namespace Response

def lowerAscii (s : String) : String := String.ofList (s.toList.map Char.toLower)

/-- The values of a header in any case, with commas between them. -/
def header? (name : String) (r : Response) : Option String :=
  match r.headers.filter fun h => lowerAscii h.1 == name with
  | [] => none
  | hs => some (", ".intercalate (hs.map (·.2)))

/-- The encoding of the body, UTF-8 unless the content type names a known one. Known are those that
`Charset` tells apart; a name for any other is taken for unknown. -/
def charset (r : Response) : Charset :=
  (((r.header? "content-type").bind MediaType.charset?).bind Charset.ofLabel?).getD (.utf8 false)

/-- The body as text, with a replacement character for what is none. -/
def text (r : Response) : String := String.ofList (r.charset.decodeLenient r.body)

end Response
end ChatAudit.Api
