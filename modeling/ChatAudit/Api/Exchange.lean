import ChatAudit.Api.Operation

/-! Operations carried out: one request, one reply. -/
namespace ChatAudit.Api
open Text

inductive Severity
  | debug
  | warning
deriving DecidableEq, Repr

structure Record where
  severity : Severity
  text : String
deriving DecidableEq, Repr

/-- What became of an operation, the request that was sent if any, and what was logged. -/
structure Exchange (α : Type) where
  outcome : Except Fault α
  request : Option Request := none
  log : List Record := []

/-- Whether the address has a scheme in front, as far as its first slash. -/
def hasScheme (url : Url) : Bool :=
  let ends (c : Char) := c == '/' || c == ':'
  let cs := url.chars.takeWhile (· != '#')
  !(cs.takeWhile (!ends ·)).isEmpty && (cs.dropWhile (!ends ·)).head? == some ':'

/-- The location of a redirect must be an address; without a host it takes that of the request. -/
def checkLocation (url : Url) (location : String) : Except Fault Unit :=
  match Url.read location with
  | .error f =>
    .error (.failed (.transport ("Invalid URL in location header: " ++ f.message ++ ".")))
  | .ok target =>
    if !target.scheme.isEmpty && target.host.isEmpty then
      match { target with host := url.host }.withQuery target.query with
      | .ok _ => .ok ()
      | .error f => .error (.url f)
    else .ok ()

/-- What arrives for a request, if anything does. -/
def receive (request : Request) : Reply → Except Fault Response
  | .lost reason => .error (.failed (.transport reason))
  | .response r => do
    if !hasScheme request.url then throw (.scheme request.url.text)
    if Status.isRedirect r.status then
      match r.header? "location" with
      | some l => checkLocation request.url l
      | none => pure ()
    return r

/-- What is logged about a failure, if anything. -/
def Failure.warning? (request : Request) : Failure → Option String
  | .status code detail _ =>
    let path := if request.url.path.isEmpty then ['/'] else Percent.decode request.url.path
    some (request.method ++ " " ++ String.ofList path ++ " failed with " ++ toString code ++ ": " ++
      detail.display)
  | .mismatch .. => some "Response did not match"
  | _ => none

/-- Carries out an operation with the reply that comes for its request. -/
def Client.perform (c : Client) (op : Operation) (reply : Reply) : Exchange op.Answer :=
  match op.call with
  | .error f => { outcome := .error f }
  | .ok call =>
    let debug : Record := ⟨.debug, call.method ++ " " ++ call.path⟩
    match c.request call with
    | .error f => { outcome := .error f, log := [debug] }
    | .ok request =>
      match receive request reply with
      | .error f => { outcome := .error f, request := some request, log := [debug] }
      | .ok r =>
        match op.answer r request.url.text with
        | .ok a => { outcome := .ok a, request := some request, log := [debug] }
        | .error f => {
            outcome := .error (.failed f)
            request := some request
            log := debug :: ((f.warning? request).map fun t => ⟨.warning, t⟩).toList }

end ChatAudit.Api
