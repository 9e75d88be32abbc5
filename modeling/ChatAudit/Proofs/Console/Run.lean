import ChatAudit.Console.Page
import Mathlib.Data.List.GetD
import Mathlib.Tactic.SplitIfs

/-! What panels do to the screen when they are carried out. -/
namespace ChatAudit.Console

namespace Screen
variable {s t u : Screen} {env : Env} {op : Api.Operation}

/-- Whether nothing but drawing lies between two screens. -/
def Drawn (s t : Screen) : Prop := t.state = s.state ∧ t.requests = s.requests

theorem Drawn.refl (s : Screen) : s.Drawn s := ⟨rfl, rfl⟩

theorem Drawn.trans (h : s.Drawn t) (h' : t.Drawn u) : s.Drawn u :=
  ⟨h'.1.trans h.1, h'.2.trans h.2⟩

/-- The screen with another state. -/
def store (change : State → State) (s : Screen) : Screen := { s with state := change s.state }

/-- The screen after an operation was asked for. -/
def sent (env : Env) (op : Api.Operation) (s : Screen) : Screen :=
  match (env.client.perform op (env.gateway s.requests.length)).request with
  | some request => { s with requests := request :: s.requests }
  | none => s

theorem state_sent : (s.sent env op).state = s.state := by
  unfold sent
  split <;> rfl

theorem sent_of_request {request : Api.Request}
    (h : (env.client.perform op (env.gateway s.requests.length)).request = some request) :
    s.sent env op = { s with requests := request :: s.requests } := by
  simp [sent, h]

theorem requests_sent (h : t.requests = s.requests) :
    (t.sent env op).requests = (s.sent env op).requests := by
  unfold sent
  rw [h]
  split
  · rfl
  · exact h

end Screen

namespace Env
variable {env : Env} {widget : String}

/-- What the user put into a widget. -/
def entered (env : Env) (widget : String) : Json := (env.widgets.lookup? widget).getD .null

/-- Whether the user pressed a button or ticked a box. -/
def pressed (env : Env) (widget : String) : Bool := (env.entered widget).present

/-- The text that the user typed into a field. -/
def typed (env : Env) (widget : String) : String :=
  match env.entered widget with
  | .str s => s
  | _ => ""

/-- The option that the user chose in a box, the one at `index` unless it is another. -/
def chosen (env : Env) (widget : String) (choices : List String) (index : Nat) : String :=
  match env.entered widget with
  | .str s => if choices.contains s then s else choices.getD index ""
  | _ => choices.getD index ""

theorem chosen_mem {choices : List String} {index : Nat} (h : index < choices.length) :
    env.chosen widget choices index ∈ choices := by
  have hdefault : choices.getD index "" ∈ choices := by
    rw [List.getD_eq_getElem _ _ h]
    exact List.getElem_mem h
  unfold chosen
  split
  · split_ifs with hs
    · exact List.contains_iff_mem.mp hs
    · exact hdefault
  · exact hdefault

end Env

namespace Panel
variable {α β : Type} {env : Env} {s t : Screen}

/-- A panel carried out on what the run has done so far. -/
def exec (p : Panel α) (env : Env) (s : Screen) : Except Stop α × Screen := (p env).run.run s

theorem run_eq_exec (p : Panel α) (state : State) : run p env state = exec p env { state } := rfl

section Equations

theorem exec_pure (a : α) : exec (pure a) env s = (.ok a, s) := rfl

theorem exec_ofExcept {ε : Type} (wrap : ε → Fault) (r : Except ε α) :
    exec (ofExcept wrap r) env s = (r.mapError fun e => .fault (wrap e), s) := by
  cases r <;> rfl

theorem exec_bind (p : Panel α) (f : α → Panel β) : exec (p >>= f) env s =
    match exec p env s with
    | (.ok a, t) => exec (f a) env t
    | (.error stop, t) => (.error stop, t) := by
  change (match (p env).run.run s with
    | (r, t) => ExceptT.bindCont (fun a => f a env) r t) = match (p env).run.run s with
    | (.ok a, t) => exec (f a) env t
    | (.error stop, t) => (.error stop, t)
  rcases (p env).run.run s with ⟨_ | _, t⟩ <;> rfl

theorem exec_read : exec read env s = (.ok env, s) := rfl

theorem exec_post (e : Event) :
    exec (post e) env s = (.ok (), { s with events := e :: s.events }) := rfl

theorem exec_within (name : String) (body : Panel α) : exec (within name body) env s =
    let (r, t) := exec body env
      { s with events := { target := name, function := "enter" } :: s.events }
    (r, { t with events := { target := name, function := "exit" } :: t.events }) := by
  have hbody (u : Screen) : exec (fun env => ExceptT.mk (do return .ok (← (body env).run)) :
      Panel (Except Stop α)) env u = (.ok (exec body env u).1, (exec body env u).2) := rfl
  rw [within, exec_bind, exec_post]
  dsimp only
  rw [exec_bind, hbody]
  dsimp only
  rw [exec_bind, exec_post]
  dsimp only
  cases (exec body env _).1 <;> rfl

/-- A failure goes to the panel that asked, any other fault ends the run. -/
def answerOf : Except Api.Fault α → Except Stop (Except Api.Failure α)
  | .ok a => .ok (.ok a)
  | .error (.failed f) => .ok (.error f)
  | .error f => .error (.fault (.call f))

theorem outcome_of_answerOf {r : Except Api.Fault α} {a : α} (h : answerOf r = .ok (.ok a)) :
    r = .ok a := by
  rcases r with ⟨⟨⟩⟩ | a' <;> cases h
  rfl

/-- Only what is no failure stops a run. -/
theorem fault_of_answerOf {r : Except Api.Fault α} {e : Stop} (h : answerOf r = .error e) :
    ∃ f, r = .error f ∧ (∀ failure, f ≠ .failed failure) ∧ e = .fault (.call f) := by
  rcases r with f | a
  · cases f with
    | failed failure => cases h
    | _ => exact ⟨_, rfl, nofun, (Except.error.inj h).symm⟩
  · cases h

theorem exec_ask_eq (op : Api.Operation) : exec (ask op) env s = exec (do
    let exchange := env.client.perform op (env.gateway s.requests.length)
    if let some request := exchange.request then
      modifyThe Screen fun s => { s with requests := request :: s.requests }
    match exchange.outcome with
    | .ok a => return .ok a
    | .error (.failed f) => return .error f
    | .error f => fail (.call f) : Panel _) env s := rfl

theorem exec_ask (op : Api.Operation) : exec (ask op) env s =
    (answerOf (env.client.perform op (env.gateway s.requests.length)).outcome, s.sent env op) := by
  rw [exec_ask_eq, Screen.sent]
  dsimp only
  cases (env.client.perform op (env.gateway s.requests.length)).request <;>
    rcases (env.client.perform op (env.gateway s.requests.length)).outcome with ⟨⟨⟩⟩ | a <;> rfl

end Equations

/-- Whether a panel only draws, never breaks off, and returns what satisfies `Q`. -/
def Draws (env : Env) (p : Panel α) (Q : α → Prop) : Prop :=
  ∀ s, ∃ a t, exec p env s = (.ok a, t) ∧ s.Drawn t ∧ Q a

namespace Draws
variable {p : Panel α} {f : α → Panel β} {Q : α → Prop} {R : β → Prop}

theorem pure {a : α} (h : Q a) : Draws env (Pure.pure a) Q :=
  fun s => ⟨a, s, rfl, .refl s, h⟩

theorem returns (a : α) : Draws env (Pure.pure a) fun _ => True := pure trivial

theorem bind (hp : Draws env p Q) (hf : ∀ a, Q a → Draws env (f a) R) :
    Draws env (p >>= f) R := by
  intro s
  obtain ⟨a, t, hexec, hst, ha⟩ := hp s
  obtain ⟨b, u, hexec', htu, hb⟩ := hf a ha t
  exact ⟨b, u, by rw [exec_bind, hexec]; exact hexec', hst.trans htu, hb⟩

theorem read : Draws env MonadReaderOf.read (· = env) := fun s => ⟨env, s, rfl, .refl s, rfl⟩

theorem input (widget : String) :
    Draws env (Panel.input widget) (· = env.entered widget) :=
  fun s => ⟨_, s, rfl, .refl s, rfl⟩

theorem getState : Draws env Panel.getState fun _ => True :=
  fun s => ⟨_, s, rfl, .refl s, trivial⟩

theorem post (e : Event) : Draws env (Panel.post e) fun _ => True :=
  fun _ => ⟨_, _, rfl, ⟨rfl, rfl⟩, trivial⟩

theorem write (function : String) (texts : List String) :
    Draws env (Panel.write function texts) fun _ => True := post _

theorem within (name : String) (hp : Draws env p Q) : Draws env (Panel.within name p) Q := by
  intro s
  obtain ⟨a, t, hexec, ⟨hstate, hrequests⟩, ha⟩ :=
    hp { s with events := { target := name, function := "enter" } :: s.events }
  refine ⟨a, { t with events := { target := name, function := "exit" } :: t.events }, ?_,
    ⟨hstate, hrequests⟩, ha⟩
  rw [exec_within, hexec]

theorem forM {l : List α} {g : α → Panel PUnit} (hg : ∀ a ∈ l, Draws env (g a) fun _ => True) :
    Draws env (l.forM g) fun _ => True := by
  induction l with
  | nil => exact returns _
  | cons a l ih =>
    exact (hg a List.mem_cons_self).bind fun _ _ =>
      ih fun b hb => hg b (List.mem_cons_of_mem a hb)

theorem container (kind : String) (texts : List String) (options : List (String × Json)) :
    Draws env (Panel.container kind texts options) fun _ => True :=
  fun _ => ⟨_, _, rfl, ⟨rfl, rfl⟩, trivial⟩

theorem row (kind : String) (layout : Json) (n : Nat) :
    Draws env (Panel.row kind layout n) fun _ => True :=
  fun _ => ⟨_, _, rfl, ⟨rfl, rfl⟩, trivial⟩

theorem button (label : String) (key : Option String) (disabled : Option Bool)
    (options : List (String × Json)) :
    Draws env (Panel.button label key disabled options)
      (· = (env.pressed (key.getD label) && !disabled.getD false)) :=
  fun _ => ⟨_, _, rfl, ⟨rfl, rfl⟩, rfl⟩

/-- A box without a key remembers nothing. -/
theorem checkbox (label : String) (options : List (String × Json)) :
    Draws env (Panel.checkbox label none options) (· = env.pressed label) :=
  fun _ => ⟨_, _, rfl, ⟨rfl, rfl⟩, rfl⟩

theorem textInput (label : String) (options : List (String × Json)) :
    Draws env (Panel.textInput label options) (· = env.typed label) :=
  (post _).bind fun _ _ => (input label).bind fun v hv => by
    unfold Env.typed
    rw [← hv]
    cases v <;> exact pure rfl

/-- A box without a key remembers no choice. -/
theorem selectbox (target label : String) (choices : List String) (index : Nat)
    (options : List (String × Json)) :
    Draws env (Panel.selectbox target label choices index none options)
      (· = env.chosen label choices index) :=
  (post _).bind fun _ _ => (input label).bind fun v hv => by
    unfold Env.chosen
    rw [← hv]
    cases v <;> exact pure rfl

end Draws

/-- Whether a panel returns what satisfies `Q` without asking for anything. -/
def Calm (env : Env) (p : Panel α) (Q : α → Prop) : Prop :=
  ∀ s, ∃ a t, exec p env s = (.ok a, t) ∧ t.requests = s.requests ∧ Q a

theorem Draws.calm {p : Panel α} {Q : α → Prop} (h : Draws env p Q) : Calm env p Q := by
  intro s
  obtain ⟨a, t, hexec, hst, ha⟩ := h s
  exact ⟨a, t, hexec, hst.2, ha⟩

namespace Calm
variable {p : Panel α} {f : α → Panel β} {Q : α → Prop} {R : β → Prop}

theorem bind (hp : Calm env p Q) (hf : ∀ a, Q a → Calm env (f a) R) : Calm env (p >>= f) R := by
  intro s
  obtain ⟨a, t, hexec, hst, ha⟩ := hp s
  obtain ⟨b, u, hexec', htu, hb⟩ := hf a ha t
  exact ⟨b, u, by rw [exec_bind, hexec]; exact hexec', htu.trans hst, hb⟩

theorem checkbox (label key : String) (options : List (String × Json)) :
    Calm env (Panel.checkbox label (some key) options) (· = env.pressed key) :=
  fun _ => ⟨_, _, rfl, rfl, rfl⟩

theorem selectbox (target label : String) (choices : List String) (index : Nat) (key : String)
    (options : List (String × Json)) :
    Calm env (Panel.selectbox target label choices index (some key) options)
      (· = env.chosen key choices index) :=
  (Draws.post _).calm.bind fun _ _ => (Draws.input key).calm.bind fun v hv => by
    unfold Env.chosen
    rw [← hv]
    exact fun _ => ⟨_, _, rfl, rfl, by cases v <;> rfl⟩

end Calm

/-- Whether a panel asks for one operation and for nothing else. -/
def Asks (env : Env) (p : Panel α) (op : Api.Operation) : Prop :=
  ∀ s, (exec p env s).2.requests = (s.sent env op).requests

namespace Asks
variable {op : Api.Operation} {p : Panel α} {Q : α → Prop}

theorem ask {f : Except Api.Failure op.Answer → Panel β}
    (hf : ∀ answer, Calm env (f answer) fun _ => True) : Asks env (Panel.ask op >>= f) op := by
  intro s
  rw [exec_bind, exec_ask]
  cases answerOf (env.client.perform op (env.gateway s.requests.length)).outcome with
  | error stop => rfl
  | ok answer =>
    obtain ⟨b, t, hexec, hrequests, -⟩ := hf answer (s.sent env op)
    simp [hexec, hrequests]

theorem bind {f : α → Panel β} (hp : Calm env p Q) (hf : ∀ a, Q a → Asks env (f a) op) :
    Asks env (p >>= f) op := by
  intro s
  obtain ⟨a, t, hexec, hrequests, ha⟩ := hp s
  rw [exec_bind, hexec]
  exact (hf a ha t).trans (Screen.requests_sent hrequests)

theorem within (name : String) (hp : Asks env p op) : Asks env (Panel.within name p) op := by
  intro s
  rw [exec_within]
  exact (hp _).trans (Screen.requests_sent rfl)

end Asks

/-- Whether a panel ends with `r`, and but for drawing leaves the screen `t` of the screen `s`. -/
def Ends (env : Env) (s : Screen) (p : Panel α) (r : Except Stop α) (t : Screen) : Prop :=
  ∀ s', s.Drawn s' → (exec p env s').1 = r ∧ t.Drawn (exec p env s').2

namespace Ends
variable {p : Panel α} {f : α → Panel β} {a : α} {r : Except Stop α} {r' : Except Stop β}
  {u : Screen} {Q : α → Prop}

theorem pure (a : α) : Ends env s (Pure.pure a) (.ok a) s := fun _ h => ⟨rfl, h⟩

theorem bind (hp : Ends env s p (.ok a) t) (hf : Ends env t (f a) r' u) :
    Ends env s (p >>= f) r' u := by
  intro s' hs
  obtain ⟨ha, ht⟩ := hp s' hs
  rw [exec_bind]
  rcases hexec : exec p env s' with ⟨b, t'⟩
  rw [hexec] at ha ht
  obtain rfl : b = .ok a := ha
  exact hf t' ht

/-- Screens that only differ in what is drawn are the same end. -/
theorem of_drawn (hp : Ends env s p r t) (ht : u.Drawn t) : Ends env s p r u :=
  fun s' hs => ⟨(hp s' hs).1, ht.trans (hp s' hs).2⟩

theorem stop {e : Stop} (hp : Ends env s p (.error e) t) :
    Ends env s (p >>= f) (.error e) t := by
  intro s' hs
  obtain ⟨he, ht⟩ := hp s' hs
  rw [exec_bind]
  rcases hexec : exec p env s' with ⟨b, t'⟩
  rw [hexec] at he ht
  obtain rfl : b = .error e := he
  exact ⟨rfl, ht⟩

/-- What is drawn first leaves no trace. -/
theorem draw (hp : Draws env p Q) (hf : ∀ a, Q a → Ends env s (f a) r' t) :
    Ends env s (p >>= f) r' t := by
  intro s' hs
  obtain ⟨a, t', hexec, hdrawn, ha⟩ := hp s'
  rw [exec_bind, hexec]
  exact hf a ha t' (hs.trans hdrawn)

theorem within (name : String) (hp : Ends env s p r t) : Ends env s (Panel.within name p) r t := by
  intro s' hs
  rw [exec_within]
  exact hp _ hs

theorem getState : Ends env s Panel.getState (.ok s.state) s :=
  fun _ h => ⟨congrArg Except.ok h.1, h⟩

theorem store (change : State → State) :
    Ends env s (modifyState change) (.ok ()) (s.store change) :=
  fun _ h => ⟨rfl, congrArg change h.1, h.2⟩

theorem ask (op : Api.Operation) : Ends env s (Panel.ask op)
    (answerOf (env.client.perform op (env.gateway s.requests.length)).outcome)
    (s.sent env op) := by
  rintro s' ⟨hstate, hrequests⟩
  rw [exec_ask, hrequests]
  exact ⟨rfl, by rw [Screen.state_sent, Screen.state_sent, hstate],
    Screen.requests_sent hrequests⟩

theorem rerun : Ends env s (Panel.rerun : Panel α) (.error .rerun) s :=
  .draw (Draws.write _ _) fun _ _ _ h => ⟨rfl, h⟩

/-- A box with a key remembers what the user did. -/
theorem checkbox (label key : String) (options : List (String × Json)) :
    Ends env s (Panel.checkbox label (some key) options) (.ok (env.pressed key))
      (s.store (·.put key (.bool (env.pressed key)))) :=
  fun _ h => ⟨rfl, congrArg (State.put key _) h.1, h.2⟩

theorem selectbox (target label : String) (choices : List String) (index : Nat) (key : String)
    (options : List (String × Json)) :
    Ends env s (Panel.selectbox target label choices index (some key) options)
      (.ok (env.chosen key choices index))
      (s.store (·.put key (.str (env.chosen key choices index)))) := by
  refine .draw (Draws.post _) fun _ _ => .draw (Draws.input key) fun v hv => ?_
  unfold Env.chosen
  rw [← hv]
  cases v <;> exact .bind (.store _) (.pure _)

end Ends

end Panel
end ChatAudit.Console
