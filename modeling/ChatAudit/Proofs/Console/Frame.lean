import ChatAudit.Proofs.Console.Core
import ChatAudit.Proofs.Console.Reaches

/-! What lies between two screens: which requests, and whether the core is still the same. -/
namespace ChatAudit.Console
open Api Panel

/-- Whether a request is that of an operation of some kind. -/
def Source (env : Env) (A : Operation → Prop) (request : Request) : Prop :=
  ∃ op, A op ∧ ∀ reply, (env.client.perform op reply).request = some request

/-- Whether all requests between two screens are for operations of some kind. -/
def Since (env : Env) (A : Operation → Prop) (s t : Screen) : Prop :=
  ∃ later, t.requests = later ++ s.requests ∧ ∀ request ∈ later, Source env A request

namespace Since
variable {env : Env} {A B : Operation → Prop} {s t u : Screen}

theorem of_eq (h : t.requests = s.requests) : Since env A s t := ⟨[], h, nofun⟩

theorem trans (h : Since env A s t) (h' : Since env A t u) : Since env A s u := by
  obtain ⟨first, hfirst, hall⟩ := h
  obtain ⟨later, hlater, hall'⟩ := h'
  refine ⟨later ++ first, by rw [hlater, hfirst, List.append_assoc], fun request hm => ?_⟩
  exact (List.mem_append.mp hm).elim (hall' request) (hall request)

theorem suffix (h : Since env A s t) : s.requests <:+ t.requests := by
  obtain ⟨later, hlater, -⟩ := h
  exact ⟨later, hlater.symm⟩

theorem mono (h : Since env A s t) (hAB : ∀ op, A op → B op) : Since env B s t := by
  obtain ⟨later, hlater, hall⟩ := h
  refine ⟨later, hlater, fun request hm => ?_⟩
  obtain ⟨op, hop, hrequest⟩ := hall request hm
  exact ⟨op, hAB op hop, hrequest⟩

theorem store (h : Since env A s t) (change : State → State) : Since env A s (t.store change) := h

theorem sent {op : Operation} (h : A op) (s : Screen) : Since env A s (s.sent env op) := by
  cases hrequest : (env.client.perform op (env.gateway s.requests.length)).request with
  | none => exact of_eq (by simp [Screen.sent, hrequest])
  | some request =>
    refine ⟨[request], by rw [Screen.sent_of_request hrequest]; rfl, ?_⟩
    rw [List.forall_mem_singleton]
    refine ⟨op, h, fun reply => ?_⟩
    rw [← hrequest]
    exact Client.request_perform _ _ _ _

theorem suffix_sent (op : Operation) (s : Screen) : s.requests <:+ (s.sent env op).requests :=
  (Since.sent (A := fun _ => True) trivial s).suffix

/-- Where nothing went before, all requests are of the kind. -/
theorem source {request : Request} {state : State} (h : Since env A { state } t)
    (hm : request ∈ t.requests) : Source env A request := by
  obtain ⟨later, hlater, hall⟩ := h
  rw [hlater, List.append_nil] at hm
  exact hall request hm

end Since

/-- Whether an operation was asked for in a run, and what the reply to it came to. -/
def Answered (env : Env) (t : Screen) (op : Operation) (a : op.Answer) : Prop :=
  ∃ request before, request :: before <:+ t.requests ∧
    (env.client.perform op (env.gateway before.length)).request = some request ∧
    (env.client.perform op (env.gateway before.length)).outcome = .ok a

theorem answered_of_answer {env : Env} {op : Operation} {a : op.Answer} {s t : Screen}
    (h : env.answer op s = .ok (.ok a)) (ht : (s.sent env op).requests <:+ t.requests) :
    Answered env t op a := by
  have houtcome := outcome_of_answerOf h
  obtain ⟨request, hrequest⟩ := Client.exists_request_of_ok houtcome
  rw [Screen.sent_of_request hrequest] at ht
  exact ⟨request, s.requests, ht, hrequest, houtcome⟩

/-- Whether an operation was asked for last and stopped the run. -/
def Lost (env : Env) (op : Operation) (e : Stop) (t : Screen) : Prop :=
  ∃ s, env.answer op s = .error e ∧ t.requests = (s.sent env op).requests

theorem lost_of_answer {env : Env} {op : Operation} {e : Stop} {s : Screen}
    (h : env.answer op s = .error e) : Lost env op e (s.sent env op) := ⟨s, h, rfl⟩

/-- Whether the core is the same and all requests in between are for operations of some kind. -/
structure Frame (env : Env) (A : Operation → Prop) (s t : Screen) : Prop where
  core : t.state.core = s.state.core
  since : Since env A s t

namespace Frame
variable {env : Env} {A : Operation → Prop} {s t : Screen}

theorem refl (s : Screen) : Frame env A s s := ⟨rfl, .of_eq rfl⟩

theorem store (h : Frame env A s t) {change : State → State}
    (hchange : (change t.state).core = t.state.core) : Frame env A s (t.store change) :=
  ⟨hchange.trans h.core, h.since⟩

theorem put (h : Frame env A s t) {key : String} (hkey : State.Apart key) (v : Json) :
    Frame env A s (t.store (·.put key v)) := h.store (State.core_put_of_apart hkey v t.state)

theorem ask (h : Frame env A s t) {op : Operation} (hop : A op) :
    Frame env A s (t.sent env op) :=
  ⟨by rw [core_sent, h.core], h.since.trans (.sent hop t)⟩

end Frame

end ChatAudit.Console
