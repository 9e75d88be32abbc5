import ChatAudit.Api.Fault
import ChatAudit.Json.Writer
import ChatAudit.Net.Base64
import ChatAudit.Net.Form
import ChatAudit.Text.Case

/-! Requests to the gateway. -/
namespace ChatAudit.Api
open Text

/-- What is asked for, before it has an address. -/
structure Call where
  method : String
  path : String
  params : Option (Dict Json) := none
  body : Option (Dict Json) := none
  /-- The answer may take any time. -/
  patient : Bool := false

structure Request where
  method : String
  url : Url
  authorization : Option String
  body : Option String
  /-- Seconds to wait for the answer. -/
  timeout : Json

/-- Who calls, and where. -/
structure Client where
  baseUrl : String
  token : Option String
  timeout : Json

namespace Client

/-- A client for the gateway below an address; slashes at its end do not count. -/
def create (baseUrl : String) (token : Option String := none) (timeout : Json := .int 120) :
    Client :=
  ⟨String.ofList (baseUrl.toList.reverse.dropWhile (· == '/')).reverse, token, timeout⟩

def isAscii (c : Char) : Bool := c.toNat < 128

/-- The header that carries the token. -/
def bearer (c : Client) : Except Fault (Option String) :=
  match c.token with
  | none | some "" => .ok none
  | some token =>
    let value := "Bearer " ++ token
    let before := value.toList.takeWhile isAscii
    match value.toList.drop before.length with
    | [] => .ok (some value)
    | first :: rest =>
      .error (.token before.length
        (before.length + 1 + (rest.takeWhile (!isAscii ·)).length) first)

/-- The header for a user in the address, who goes before any token. -/
def basic? (u : Url) : Option String :=
  let (name, password) := cutAt ':' u.userinfo
  let name := Percent.decode name
  let password := Percent.decode (password.getD [])
  if name.isEmpty && password.isEmpty then none
  else some ("Basic " ++
    String.ofList (Base64.encode (Charset.encodeUtf8 (name ++ ':' :: password))))

/-- The query for parameters: none for no parameters, but an empty one for parameters without
values. -/
def queryOf (params : Dict Json) : Option (List Char) :=
  if List.isEmpty params then none else some (Form.encode (Form.pairs params))

def urlOf (base : Url) (call : Call) : Except Url.Fault Url := do
  let url ← base.resolve (← Url.read call.path)
  match call.params with
  | none => return url
  | some params => url.withQuery (queryOf params)

def bodyText (body : Dict Json) : Except Fault String :=
  if (Json.obj body).isFinite then .ok (Json.obj body).write else .error .body

/-- The request for a call. Base address, token, address and body are looked at in this order. -/
def request (c : Client) (call : Call) : Except Fault Request := do
  let base ← (Url.read c.baseUrl >>= Url.asBase).mapError .url
  let bearer ← c.bearer
  let url ← (urlOf base call).mapError .url
  let body ← call.body.mapM bodyText
  return {
    method := upper call.method
    url
    authorization := (basic? url).or bearer
    body
    timeout := if call.patient then .null else c.timeout }

end Client
end ChatAudit.Api
