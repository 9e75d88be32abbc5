import ChatAudit.Api.Traffic
import ChatAudit.Proofs.Api.Body
import ChatAudit.Proofs.Api.SessionPath
import Mathlib.Data.List.TakeWhile

/-! Every operation sends one request at most, and takes a reply for each request that it sends. -/
namespace ChatAudit.Api

section Build

/-- Whether the token of a client, if it has one, is ASCII. -/
def Client.AsciiToken (c : Client) : Prop := ∀ token ∈ c.token, ∀ d ∈ token.toList, Client.isAscii d

/-- Whether the address and the body of a call can be put together. -/
def Client.Builds (c : Client) (call : Call) : Prop :=
  ∃ base url body, (Url.read c.baseUrl >>= Url.asBase) = .ok base ∧
    Client.urlOf base call = .ok url ∧ call.body.mapM Client.bodyText = .ok body

variable {c : Client} {call : Call}

theorem drop_length_takeWhile {α : Type} (p : α → Bool) (l : List α) :
    l.drop (l.takeWhile p).length = l.dropWhile p := by
  have hlength : (l.takeWhile p).length ≤ l.length := (List.takeWhile_prefix p).length_le
  have happend : l.take (l.takeWhile p).length ++ l.drop (l.takeWhile p).length =
      l.takeWhile p ++ l.dropWhile p := by
    rw [List.take_append_drop, List.takeWhile_append_dropWhile]
  exact (List.append_inj happend (by rw [List.length_take, Nat.min_eq_left hlength])).2

/-- A header is written for every token that is ASCII; any other token is at fault. -/
theorem bearer_cases (c : Client) :
    (c.AsciiToken ∧ ∃ bearer, c.bearer = .ok bearer) ∨
      (¬c.AsciiToken ∧ ∃ start stop first, c.bearer = .error (.token start stop first)) := by
  have hscheme : ∀ d ∈ "Bearer ".toList, Client.isAscii d := List.all_eq_true.mp rfl
  unfold Client.bearer
  split
  · next htoken =>
    refine .inl ⟨?_, none, rfl⟩
    intro token hm
    rw [htoken] at hm
    cases hm
  · next htoken =>
    refine .inl ⟨?_, none, rfl⟩
    intro token hm
    rw [htoken] at hm
    obtain rfl := Option.some.inj hm
    exact fun d hd => absurd hd List.not_mem_nil
  · next token _ htoken =>
    have hiff : c.AsciiToken ↔ ∀ d ∈ ("Bearer " ++ token).toList, Client.isAscii d := by
      rw [String.toList_append, List.forall_mem_append]
      unfold Client.AsciiToken
      rw [htoken]
      constructor
      · intro h
        exact ⟨hscheme, h token rfl⟩
      · rintro ⟨-, h⟩ token' hm
        obtain rfl := Option.some.inj hm
        exact h
    have hrest : ("Bearer " ++ token).toList.dropWhile Client.isAscii = [] ↔ c.AsciiToken := by
      rw [hiff, List.dropWhile_eq_nil_iff]
    rw [← hrest]
    dsimp only
    rw [drop_length_takeWhile]
    cases ("Bearer " ++ token).toList.dropWhile Client.isAscii with
    | nil => exact .inl ⟨rfl, _, rfl⟩
    | cons first rest => exact .inr ⟨List.cons_ne_nil _ _, _, _, _, rfl⟩

theorem exists_request (h : c.Builds call) (hascii : c.AsciiToken) :
    ∃ request, c.request call = .ok request := by
  obtain ⟨base, url, body, hbase, hurl, hbody⟩ := h
  obtain ⟨u, hu, hbase⟩ := bind_eq_ok.mp hbase
  rcases bearer_cases c with ⟨-, bearer, hbearer⟩ | ⟨hnot, -⟩
  · exact ⟨_, Client.request_eq_ok_iff.mpr
      ⟨u, base, bearer, url, body, hu, hbase, hbearer, hurl, hbody, rfl⟩⟩
  · exact absurd hascii hnot

/-- The header comes before the address of the call, so that its fault is the one that is seen. -/
theorem request_of_not_ascii (h : c.Builds call) (hascii : ¬c.AsciiToken) :
    ∃ start stop first, c.request call = .error (.token start stop first) := by
  obtain ⟨base, -, -, hbase, -, -⟩ := h
  rcases bearer_cases c with ⟨hyes, -⟩ | ⟨-, start, stop, first, hbearer⟩
  · exact absurd hyes hascii
  · refine ⟨start, stop, first, ?_⟩
    unfold Client.request
    rw [hbase]
    simp only [Except.mapError, bind, Except.bind, hbearer]

end Build

namespace Talk
variable {α β : Type} {queue : Nat → Reply} {t : Traffic}

/-- A talk carried out after what has passed so far. -/
def exec (p : Talk α) (queue : Nat → Reply) (t : Traffic) : Except Fault α × Traffic :=
  (p queue).run.run t

theorem exec_ofExcept (r : Except Fault α) : exec (ofExcept r) queue t = (r, t) := by
  cases r <;> rfl

theorem exec_note (r : Record) : exec (note r) queue t = (.ok (), { t with log := r :: t.log }) :=
  rfl

theorem exec_send (request : Request) : exec (send request) queue t =
    (.ok (queue t.taken), { t with taken := t.taken + 1, requests := request :: t.requests }) := rfl

theorem exec_bind (p : Talk α) (f : α → Talk β) : exec (p >>= f) queue t =
    match exec p queue t with
    | (.ok a, u) => exec (f a) queue u
    | (.error e, u) => (.error e, u) := by
  change (match (p queue).run.run t with
    | (r, u) => ExceptT.bindCont (fun a => f a queue) r u) = match (p queue).run.run t with
    | (.ok a, u) => exec (f a) queue u
    | (.error e, u) => (.error e, u)
  rcases (p queue).run.run t with ⟨_ | _, u⟩ <;> rfl

end Talk

section CarryOut
variable {c : Client} {queue : Nat → Reply} {op : Operation} {call : Call} {request : Request}

/-- What passes in an exchange: a reply is taken if a request is sent. -/
def Done.ofExchange (op : Operation) (exchange : Exchange op.Answer) : Done where
  operation := op
  outcome := exchange.outcome
  traffic := {
    taken := exchange.request.toList.length
    requests := exchange.request.toList
    log := exchange.log.reverse }

/-- An operation is an exchange with the reply at the front of the queue. -/
theorem carryOut_eq (c : Client) (queue : Nat → Reply) (op : Operation) :
    c.carryOut queue op = .ofExchange op (c.perform op (queue 0)) := by
  have hexec : c.carryOut queue op =
      ⟨op, (Talk.exec (c.talk op) queue {}).1, (Talk.exec (c.talk op) queue {}).2⟩ := rfl
  rw [hexec]
  unfold Client.talk Client.perform
  rw [Talk.exec_bind, Talk.exec_ofExcept]
  cases op.call with
  | error f => rfl
  | ok call =>
    dsimp only
    rw [Talk.exec_bind, Talk.exec_note]
    dsimp only
    rw [Talk.exec_bind, Talk.exec_ofExcept]
    cases c.request call with
    | error f => rfl
    | ok request =>
      dsimp only
      rw [Talk.exec_bind, Talk.exec_send]
      dsimp only
      rw [Talk.exec_bind, Talk.exec_ofExcept]
      cases receive request (queue 0) with
      | error f => rfl
      | ok r =>
        dsimp only
        cases op.answer r request.url.text with
        | ok a => rfl
        | error f =>
          dsimp only
          cases f.warning? request <;> rfl

theorem taken_carryOut (c : Client) (queue : Nat → Reply) (op : Operation) :
    (c.carryOut queue op).traffic.taken = (c.carryOut queue op).traffic.requests.length := by
  rw [carryOut_eq]
  rfl

theorem length_requests_carryOut (c : Client) (queue : Nat → Reply) (op : Operation) :
    (c.carryOut queue op).traffic.requests.length ≤ 1 := by
  rw [carryOut_eq]
  unfold Done.ofExchange
  cases (c.perform op (queue 0)).request <;> simp

/-- An operation that sends nothing ends before any reply could matter. -/
theorem perform_eq_of_unsent {reply : Reply} (h : (c.perform op reply).request = none)
    (reply' : Reply) : c.perform op reply' = c.perform op reply := by
  cases hcall : op.call with
  | error f => simp only [Client.perform, hcall]
  | ok call =>
    cases hrequest : c.request call with
    | error f => simp only [Client.perform, hcall, hrequest]
    | ok request =>
      rw [(Client.perform_of_request hcall hrequest).1] at h
      cases h

/-- Of the queue only the reply that is taken matters. -/
theorem carryOut_congr {queue' : Nat → Reply}
    (h : (c.carryOut queue op).traffic.taken = 1 → queue' 0 = queue 0) :
    c.carryOut queue' op = c.carryOut queue op := by
  rw [carryOut_eq, carryOut_eq]
  cases hrequest : (c.perform op (queue 0)).request with
  | none => rw [perform_eq_of_unsent hrequest]
  | some request =>
    have htaken : (c.carryOut queue op).traffic.taken = 1 := by
      rw [carryOut_eq]
      simp only [Done.ofExchange, hrequest, Option.toList_some, List.length_singleton]
    rw [h htaken]

/-- An argument that is not the record it should be is told, and nothing else happens. -/
theorem carryOut_of_rejected {form : Payload.Form} {make : Argument → Operation} {d : Dict Json}
    {issues : List ChatAudit.Record.Issue} (hmake : make ∈ Operation.taking form)
    (h : Payload.read form d = .rejected issues) :
    c.carryOut queue (make (.entries d)) =
      ⟨make (.entries d), .error (.invalid form issues), {}⟩ := by
  obtain ⟨build, hbuild⟩ := call_of_taking hmake
  have hcall : (make (.entries d)).call = .error (.invalid form issues) := by
    rw [hbuild]
    simp only [Argument.resolve, h]
    rfl
  rw [carryOut_eq]
  simp only [Client.perform, hcall]
  rfl

theorem requests_carryOut (hcall : op.call = .ok call) (hrequest : c.request call = .ok request) :
    (c.carryOut queue op).traffic.requests = [request] := by
  rw [carryOut_eq]
  unfold Done.ofExchange
  dsimp only
  rw [(Client.perform_of_request hcall hrequest).1]
  rfl

theorem carryOut_of_unbuilt {f : Fault} (hcall : op.call = .ok call)
    (hrequest : c.request call = .error f) :
    (c.carryOut queue op).traffic.requests = [] ∧ (c.carryOut queue op).outcome = .error f := by
  have hperform : c.perform op (queue 0) =
      { outcome := .error f, log := [⟨.debug, call.method ++ " " ++ call.path⟩] } := by
    simp only [Client.perform, hcall, hrequest]
  rw [carryOut_eq, hperform]
  exact ⟨rfl, rfl⟩

end CarryOut

/-- What holds of an operation that was carried out when `next` was the reply at the front. -/
structure Client.Served (c : Client) (next : Reply) (d : Done) : Prop where
  /-- At most one request is sent. -/
  single : d.traffic.requests.length ≤ 1
  /-- A reply is taken for a request, whatever the reply is. -/
  replied : d.traffic.taken = d.traffic.requests.length
  /-- An argument that is not the record it should be is told, and nothing is sent or logged. -/
  checked : ∀ form, ∀ make ∈ Operation.taking form, ∀ entries issues,
    d.operation = make (.entries entries) → Payload.read form entries = .rejected issues →
      d = ⟨make (.entries entries), .error (.invalid form issues), {}⟩
  /-- With an ASCII token every call that can be put together is sent. -/
  sent : ∀ call, d.operation.call = .ok call → c.Builds call → c.AsciiToken →
    ∃ request, c.request call = .ok request ∧ d.traffic.requests = [request]
  /-- With any other token none is. -/
  unsent : ∀ call, d.operation.call = .ok call → c.Builds call → ¬c.AsciiToken →
    d.traffic.requests = [] ∧ ∃ start stop first, d.outcome = .error (.token start stop first)
  /-- The operation goes as it would first of all, with the reply that it took. -/
  fresh : ∀ queue, (d.traffic.taken = 1 → queue 0 = next) → c.carryOut queue d.operation = d

section Run
variable {c : Client} {queue : Nat → Reply} {ops : List Operation} {before after : List Done}
  {d : Done}

theorem served_carryOut (c : Client) (queue : Nat → Reply) (op : Operation) :
    c.Served (queue 0) (c.carryOut queue op) := by
  have hop : (c.carryOut queue op).operation = op := rfl
  constructor
  case single => exact length_requests_carryOut c queue op
  case replied => exact taken_carryOut c queue op
  case checked =>
    intro form make hmake entries issues hentries h
    obtain rfl : op = make (.entries entries) := hop.symm.trans hentries
    exact carryOut_of_rejected hmake h
  case sent =>
    intro call hcall hbuilds hascii
    obtain ⟨request, hrequest⟩ := exists_request hbuilds hascii
    exact ⟨request, hrequest, requests_carryOut hcall hrequest⟩
  case unsent =>
    intro call hcall hbuilds hascii
    obtain ⟨start, stop, first, hrequest⟩ := request_of_not_ascii hbuilds hascii
    obtain ⟨hnone, houtcome⟩ := carryOut_of_unbuilt hcall hrequest
    exact ⟨hnone, start, stop, first, houtcome⟩
  case fresh =>
    intro queue' h
    exact carryOut_congr h

/-- How many replies were taken. -/
def takenBy (ds : List Done) : Nat := (ds.map (·.traffic.taken)).sum

theorem map_operation_carryOutAll (c : Client) (queue : Nat → Reply) (ops : List Operation) :
    (c.carryOutAll queue ops).map (·.operation) = ops := by
  induction ops generalizing queue with
  | nil => rfl
  | cons op ops ih =>
    unfold Client.carryOutAll
    rw [List.map_cons, ih]
    rfl

/-- Each operation of a series finds the queue where those before it have left it. -/
theorem eq_carryOut_of_split (h : c.carryOutAll queue ops = before ++ d :: after) :
    d = c.carryOut (fun n => queue (n + takenBy before)) d.operation := by
  induction ops generalizing queue before with
  | nil =>
    have hlength := congrArg List.length h
    simp [Client.carryOutAll] at hlength
  | cons op ops ih =>
    unfold Client.carryOutAll at h
    cases before with
    | nil =>
      obtain ⟨rfl, -⟩ := List.cons.inj h
      rfl
    | cons first before =>
      obtain ⟨hfirst, hrest⟩ := List.cons.inj h
      have hd := ih hrest
      have hqueue : (fun n => queue (n + takenBy (first :: before))) =
          fun n => queue (n + takenBy before + (c.carryOut queue op).traffic.taken) := by
        funext n
        rw [hfirst]
        simp only [takenBy, List.map_cons, List.sum_cons]
        congr 1
        omega
      rw [hqueue]
      exact hd

end Run

/-- In every series of operations, whatever the replies are, each operation sends one request at
most and takes the reply to it; what cannot be an argument is told before anything else, and what
can be put together is sent if the token is ASCII. None shows what went before it. -/
theorem Client.one_request_each (c : Client) (queue : Nat → Reply) (ops : List Operation) :
    (c.carryOutAll queue ops).map (·.operation) = ops ∧
      ∀ before d after, c.carryOutAll queue ops = before ++ d :: after →
        c.Served (queue (takenBy before)) d := by
  refine ⟨map_operation_carryOutAll c queue ops, ?_⟩
  intro before d after h
  have hserved := served_carryOut c (fun n => queue (n + takenBy before)) d.operation
  rw [← eq_carryOut_of_split h, Nat.zero_add] at hserved
  exact hserved

/-- A query with a page that is no number, and an export. -/
def pageless : Dict Json := [("page", .str "x")]

theorem read_pageless : Payload.read .sessions pageless =
    .rejected [⟨.integerText, [.key "page"]⟩] := rfl

/-- A gateway that answers the first request with an error and then no more. -/
def failing (n : Nat) : Reply := if n = 0 then .response ⟨500, [], []⟩ else .lost "down"

theorem builds_exportLogs : ∃ call, (Operation.exportLogs .nothing).call = .ok call ∧
    gateway.Builds call := ⟨_, rfl, _, _, _, rfl, rfl, rfl⟩

theorem ascii_gateway : gateway.AsciiToken := fun _ h => by cases h

theorem gateway_one_request_each : ∃ first second,
    gateway.carryOutAll failing [.listSessions (.entries pageless), .exportLogs .nothing] =
        [first, second] ∧
      first.traffic = {} ∧ second.traffic.requests.length = 1 ∧
      gateway.carryOut failing second.operation = second := by
  obtain ⟨hops, hserved⟩ := Client.one_request_each gateway failing
    [.listSessions (.entries pageless), .exportLogs .nothing]
  obtain ⟨first, second, hrun⟩ : ∃ first second, gateway.carryOutAll failing
      [.listSessions (.entries pageless), .exportLogs .nothing] = [first, second] := ⟨_, _, rfl⟩
  rw [hrun] at hops
  obtain ⟨hfirst, hops⟩ := List.cons.inj hops
  have hsecond : second.operation = .exportLogs .nothing := (List.cons.inj hops).1
  have hunsent := (hserved [] first [second] hrun).checked .sessions .listSessions
    List.mem_cons_self pageless _ hfirst read_pageless
  have hnext := hserved [first] second [] hrun
  obtain ⟨call, hcall, hbuilds⟩ := builds_exportLogs
  rw [← hsecond] at hcall
  obtain ⟨request, -, hsent⟩ := hnext.sent call hcall hbuilds ascii_gateway
  refine ⟨first, second, hrun, by rw [hunsent], by rw [hsent]; rfl, ?_⟩
  refine hnext.fresh failing fun _ => ?_
  rw [hunsent]
  rfl

/-- A client whose token is not ASCII. -/
def accented : Client := .create "http://gateway.test/api/v1" (some "é")

/-- A call whose address and body are fine is not sent if the header for the token cannot be
written. -/
theorem accented_sends_nothing :
    (∃ call, Operation.listApiKeys.call = .ok call ∧ accented.Builds call) ∧
      (accented.carryOutAll failing [.listApiKeys]).map (·.traffic.requests.length) = [0] :=
  ⟨⟨_, rfl, _, _, _, rfl, rfl, rfl⟩, rfl⟩

end ChatAudit.Api
