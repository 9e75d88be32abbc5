import ChatAudit.Proofs.Console.Run

/-! What holds at the end of a panel, whichever way it ends. -/
namespace ChatAudit.Console

/-- What an operation comes to that is asked for on a screen. -/
def Env.answer (env : Env) (op : Api.Operation) (s : Screen) :
    Except Stop (Except Api.Failure op.Answer) :=
  Panel.answerOf (env.client.perform op (env.gateway s.requests.length)).outcome

namespace Panel
variable {α β : Type} {env : Env} {s t : Screen}

/-- Whether `Q` holds of the result that a panel ends with and, but for drawing, of the screen that
it leaves. -/
def Reaches (env : Env) (s : Screen) (p : Panel α) (Q : Except Stop α → Screen → Prop) : Prop :=
  ∀ s', s.Drawn s' → ∃ t, t.Drawn (exec p env s').2 ∧ Q (exec p env s').1 t

/-- One thing holds of what is returned, another of a stop. -/
def Branch (A : α → Screen → Prop) (B : Stop → Screen → Prop) : Except Stop α → Screen → Prop
  | .ok a, t => A a t
  | .error e, t => B e t

namespace Reaches
variable {p : Panel α} {f : α → Panel β} {a : α} {r : Except Stop α} {D : α → Prop}
  {P P' : Except Stop α → Screen → Prop} {Q : Except Stop β → Screen → Prop}

theorem of_ends (h : Ends env s p r t) (hP : P r t) : Reaches env s p P := by
  intro s' hs
  obtain ⟨hr, ht⟩ := h s' hs
  exact ⟨t, ht, hr ▸ hP⟩

theorem mono (h : Reaches env s p P) (hP : ∀ r t, P r t → P' r t) : Reaches env s p P' := by
  intro s' hs
  obtain ⟨t, ht, hr⟩ := h s' hs
  exact ⟨t, ht, hP _ _ hr⟩

theorem pure (h : P (.ok a) s) : Reaches env s (Pure.pure a) P := of_ends (.pure a) h

/-- Nothing follows a panel that stops the run. -/
theorem stop {e : Stop} (hp : Ends env s p (.error e) t) (h : Q (.error e) t) :
    Reaches env s (p >>= f) Q := of_ends hp.stop h

theorem bind (hp : Reaches env s p P) (hok : ∀ a t, P (.ok a) t → Reaches env t (f a) Q)
    (hstop : ∀ e t, P (.error e) t → Q (.error e) t) : Reaches env s (p >>= f) Q := by
  intro s' hs
  obtain ⟨t, ht, hP⟩ := hp s' hs
  rw [exec_bind]
  rcases hexec : exec p env s' with ⟨e | a, t'⟩
  · rw [hexec] at ht hP
    exact ⟨t, ht, hstop e t hP⟩
  · rw [hexec] at ht hP
    exact hok a t hP t' ht

/-- A stop counts as one of the whole. -/
theorem seq {A : α → Screen → Prop}
    (hp : Reaches env s p (Branch A fun e t => Q (.error e) t))
    (hf : ∀ a t, A a t → Reaches env t (f a) Q) : Reaches env s (p >>= f) Q :=
  bind hp hf fun _ _ h => h

/-- What follows a panel with a known end starts where it ends. -/
theorem after (hp : Ends env s p (.ok a) t) (hf : Reaches env t (f a) Q) :
    Reaches env s (p >>= f) Q := by
  intro s' hs
  obtain ⟨ha, ht⟩ := hp s' hs
  rw [exec_bind]
  rcases hexec : exec p env s' with ⟨b, t'⟩
  rw [hexec] at ha ht
  obtain rfl : b = .ok a := ha
  exact hf t' ht

theorem draw (hp : Draws env p D) (hf : ∀ a, D a → Reaches env s (f a) Q) :
    Reaches env s (p >>= f) Q := by
  intro s' hs
  obtain ⟨a, t, hexec, hdrawn, ha⟩ := hp s'
  rw [exec_bind, hexec]
  exact hf a ha t (hs.trans hdrawn)

theorem drawn (hp : Draws env p D) (h : ∀ a, D a → P (.ok a) s) : Reaches env s p P := by
  intro s' hs
  obtain ⟨a, t, hexec, hdrawn, ha⟩ := hp s'
  rw [hexec]
  exact ⟨s, hs.trans hdrawn, h a ha⟩

theorem within (name : String) (hp : Reaches env s p P) :
    Reaches env s (Panel.within name p) P := by
  intro s' hs
  obtain ⟨t, ht, hP⟩ := hp { s' with events := { target := name, function := "enter" } :: s'.events }
    hs
  rw [exec_within]
  exact ⟨t, ht, hP⟩

theorem rerun (h : P (.error .rerun) s) : Reaches env s Panel.rerun P := of_ends .rerun h

theorem getState {f : State → Panel β} (hf : Reaches env s (f s.state) Q) :
    Reaches env s (Panel.getState >>= f) Q :=
  after .getState hf

theorem store {change : State → State} {f : Unit → Panel β}
    (hf : Reaches env (s.store change) (f ()) Q) : Reaches env s (modifyState change >>= f) Q :=
  after (.store change) hf

theorem ask {op : Api.Operation} {f : Except Api.Failure op.Answer → Panel β}
    (hf : ∀ answer, env.answer op s = .ok answer → Reaches env (s.sent env op) (f answer) Q)
    (hstop : ∀ e, env.answer op s = .error e → Q (.error e) (s.sent env op)) :
    Reaches env s (Panel.ask op >>= f) Q := by
  refine bind (P := fun r t => env.answer op s = r ∧ s.sent env op = t)
    (of_ends (.ask op) ⟨rfl, rfl⟩) ?_ ?_
  · rintro answer _ ⟨hanswer, rfl⟩
    exact hf answer hanswer
  · rintro e _ ⟨hanswer, rfl⟩
    exact hstop e hanswer

end Reaches
end Panel
end ChatAudit.Console
