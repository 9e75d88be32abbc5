import ChatAudit.Api.Exchange

/-! Operations one after another, with replies that wait in a queue. -/
namespace ChatAudit.Api

/-- What has passed between a client and the gateway, latest first. -/
structure Traffic where
  /-- How many replies were taken from the queue. -/
  taken : Nat := 0
  requests : List Request := []
  log : List Record := []

/-- What a client does with the gateway. The queue has a reply for every number. -/
abbrev Talk := ReaderT (Nat → Reply) (ExceptT Fault (StateM Traffic))

namespace Talk

def ofExcept {α : Type} : Except Fault α → Talk α
  | .ok a => pure a
  | .error f => throw f

def note (r : Record) : Talk Unit := modifyThe Traffic fun t => { t with log := r :: t.log }

/-- Sends a request and takes the next reply. -/
def send (request : Request) : Talk Reply := do
  let t ← getThe Traffic
  set { t with taken := t.taken + 1, requests := request :: t.requests }
  return (← read) t.taken

end Talk

/-- An operation from the check of its argument to its answer. -/
def Client.talk (c : Client) (op : Operation) : Talk op.Answer := do
  let call ← Talk.ofExcept op.call
  Talk.note ⟨.debug, call.method ++ " " ++ call.path⟩
  let request ← Talk.ofExcept (c.request call)
  let reply ← Talk.send request
  let response ← Talk.ofExcept (receive request reply)
  match op.answer response request.url.text with
  | .ok a => return a
  | .error f =>
    if let some text := f.warning? request then Talk.note ⟨.warning, text⟩
    throw (.failed f)

/-- An operation, what became of it, and what passed for it. -/
structure Done where
  operation : Operation
  outcome : Except Fault operation.Answer
  traffic : Traffic

namespace Client

/-- Carries out an operation with the replies of a queue. -/
def carryOut (c : Client) (queue : Nat → Reply) (op : Operation) : Done :=
  let (outcome, traffic) := ((c.talk op).run queue).run.run {}
  ⟨op, outcome, traffic⟩

/-- Carries out operations one after another, whatever becomes of each. The replies that one has
taken are gone for the next. -/
def carryOutAll (c : Client) : (queue : Nat → Reply) → List Operation → List Done
  | _, [] => []
  | queue, op :: ops =>
    let done := c.carryOut queue op
    done :: c.carryOutAll (fun n => queue (n + done.traffic.taken)) ops

end Client
end ChatAudit.Api
