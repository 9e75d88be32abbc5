import ChatAudit.Proofs.Api.Outcome
import ChatAudit.Proofs.Console.Run

/-! Relations between the screens before and after a panel, however the panel ends. -/
namespace ChatAudit.Console

/-- A relation that allows drawing, and doing one thing after another. -/
class Closed (R : Screen → Screen → Prop) : Prop where
  drawn {s t : Screen} : s.Drawn t → R s t
  trans {s t u : Screen} : R s t → R t u → R s u

/-- Whether the client can send a request for an operation. -/
def Env.Sends (env : Env) (op : Api.Operation) : Prop :=
  ∃ request, ∀ reply, (env.client.perform op reply).request = some request

namespace Panel
variable {α β : Type} {env : Env} {R : Screen → Screen → Prop}

/-- Whether the relation holds over whatever a panel does, and `Q` of what it returns if it does
not break off. -/
def Keeps (env : Env) (R : Screen → Screen → Prop) (p : Panel α) (Q : α → Prop) : Prop :=
  ∀ s, R s (exec p env s).2 ∧ ∀ a, (exec p env s).1 = .ok a → Q a

variable {p : Panel α} {f : α → Panel β} {Q Q' : α → Prop} {P : β → Prop}

namespace Keeps

theorem mono (hp : Keeps env R p Q) (h : ∀ a, Q a → Q' a) : Keeps env R p Q' :=
  fun s => ⟨(hp s).1, fun a ha => h a ((hp s).2 a ha)⟩

theorem store {change : State → State} (h : ∀ s, R s (s.store change)) :
    Keeps env R (modifyState change) fun _ => True :=
  fun s => ⟨h s, fun _ _ => trivial⟩

/-- What answers was sent. -/
theorem ask {op : Api.Operation} (h : ∀ s, R s (s.sent env op)) :
    Keeps env R (Panel.ask op) fun answer => ∀ a, answer = .ok a → env.Sends op := by
  intro s
  rw [exec_ask]
  refine ⟨h s, ?_⟩
  rintro _ hanswer a rfl
  obtain ⟨request, hrequest⟩ := Api.Client.exists_request_of_ok (outcome_of_answerOf hanswer)
  exact ⟨request, fun reply => (Api.Client.request_perform _ _ _ _).trans hrequest⟩

end Keeps

variable [Closed R]

theorem Draws.keeps (h : Draws env p Q) : Keeps env R p Q := by
  intro s
  obtain ⟨a, t, hexec, hst, ha⟩ := h s
  rw [hexec]
  exact ⟨Closed.drawn hst, fun b hb => Except.ok.inj hb ▸ ha⟩

namespace Keeps

theorem bind (hp : Keeps env R p Q) (hf : ∀ a, Q a → Keeps env R (f a) P) :
    Keeps env R (p >>= f) P := by
  intro s
  obtain ⟨hst, ha⟩ := hp s
  rw [exec_bind]
  rcases hexec : exec p env s with ⟨stop | a, t⟩
  · rw [hexec] at hst
    exact ⟨hst, nofun⟩
  · rw [hexec] at hst ha
    obtain ⟨htu, hb⟩ := hf a (ha a rfl) t
    exact ⟨Closed.trans hst htu, hb⟩

theorem seq (hp : Keeps env R p fun _ => True) (hf : ∀ a, Keeps env R (f a) P) :
    Keeps env R (p >>= f) P :=
  hp.bind fun a _ => hf a

theorem pure {a : α} (h : Q a) : Keeps env R (Pure.pure a) Q := (Draws.pure h).keeps

theorem returns (a : α) : Keeps env R (Pure.pure a) fun _ => True := pure trivial

theorem throw (stop : Stop) : Keeps env R (MonadExcept.throw stop : Panel α) Q :=
  fun s => ⟨Closed.drawn (.refl s), nofun⟩

theorem fail (f : Fault) : Keeps env R (Panel.fail f : Panel α) Q := throw _

theorem rerun : Keeps env R (Panel.rerun : Panel α) Q :=
  bind (Draws.write _ _).keeps fun _ _ => throw _

theorem ofExcept {ε : Type} (wrap : ε → Fault) (r : Except ε α) :
    Keeps env R (Panel.ofExcept wrap r) (r = .ok ·) := by
  cases r with
  | ok a => exact pure rfl
  | error e => exact fail _

theorem within (name : String) (hp : Keeps env R p Q) : Keeps env R (Panel.within name p) Q := by
  intro s
  obtain ⟨hst, ha⟩ := hp { s with events := { target := name, function := "enter" } :: s.events }
  have henter : R s { s with events := { target := name, function := "enter" } :: s.events } :=
    Closed.drawn ⟨rfl, rfl⟩
  have hexit (t : Screen) :
      R t { t with events := { target := name, function := "exit" } :: t.events } :=
    Closed.drawn ⟨rfl, rfl⟩
  rw [exec_within]
  exact ⟨Closed.trans henter (Closed.trans hst (hexit _)), ha⟩

end Keeps
end Panel
end ChatAudit.Console
