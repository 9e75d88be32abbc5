import ChatAudit.Proofs.Console.Frame
import ChatAudit.Proofs.Console.Maintenance
import ChatAudit.Proofs.Console.Reaches

/-! The maintenance tab: it leaves the conversation and the list of sessions alone. -/
namespace ChatAudit.Console
open Api Panel

section Course
variable (env : Env) (sel : Selection)

/-- What the maintenance tab asks for. Logs are only deleted once that is confirmed. -/
inductive Upkeep : Operation → Prop
  | summarize {start : Timestamp} (keyId : Option Int) (hstart : start.offset = env.now.offset) :
    Upkeep (.summarize (.entries (summaryBody sel keyId start env.now)))
  | exportSessions : Upkeep (.exportSessions (.entries sel.filters))
  | exportLogs : Upkeep (.exportLogs (.entries (Filters.forLogs sel.filters)))
  | deleteLogs {start : Timestamp} (hconfirmed : env.pressed "confirm_delete_logs")
    (hpressed : env.pressed "Delete matching logs") (hstart : start.offset = env.now.offset) :
    Upkeep (.deleteLogs (.entries (Filters.between start env.now (Filters.forLogs sel.filters))))

/-- Why the maintenance tab stops a run. -/
inductive UpkeepStop (t : Screen) : Stop → Prop
  | lost {op : Operation} {e : Stop} (hop : Upkeep env sel op) (h : Lost env op e t) :
    UpkeepStop t e
  | tooEarly (h : sel.TooEarly env.now) :
    UpkeepStop t (.fault (.filters (.window .beforeFirstYear)))

/-- How the maintenance tab goes as far as a panel of it. -/
def Keeping {α : Type} (s : Screen) : Except Stop α → Screen → Prop :=
  Branch (fun _ t => Frame env (Upkeep env sel) s t)
    fun e t => Frame env (Upkeep env sel) s t ∧ UpkeepStop env sel t e

end Course

section Reaches
variable {env : Env} {sel : Selection} {keys : List ApiKey} {s t : Screen}

theorem frame_of_keeping {α : Type} {r : Except Stop α} (h : Keeping env sel s r t) :
    Frame env (Upkeep env sel) s t := by
  cases r with
  | ok a => exact h
  | error e => exact h.1

theorem keeping_drawn {α : Type} {p : Panel α} {Q : α → Prop} (h : Frame env (Upkeep env sel) s t)
    (hp : Draws env p Q) : Reaches env t p (Keeping env sel s) :=
  .drawn hp fun _ _ => h

/-- Something asked for, and what is done with the answer. -/
theorem keeping_ask {α : Type} {op : Operation} {f : Except Failure op.Answer → Panel α}
    (h : Frame env (Upkeep env sel) s t) (hop : Upkeep env sel op)
    (hf : ∀ answer u, Frame env (Upkeep env sel) s u →
      Reaches env u (f answer) (Keeping env sel s)) :
    Reaches env t (Panel.ask op >>= f) (Keeping env sel s) :=
  .ask (fun answer _ => hf answer _ (h.ask hop))
    fun _ he => ⟨h.ask hop, .lost hop (lost_of_answer he)⟩

/-- An export that is stored is offered for download. -/
theorem keeping_stored (h : Frame env (Upkeep env sel) s t)
    (stored : State → Option (Option File)) (label : String) :
    Reaches env t (do if let some (some f) := stored (← getState) then download f label)
      (Keeping env sel s) := by
  refine .getState ?_
  split
  · exact keeping_drawn h (draws_download _ _)
  · exact .pure h

theorem forBody_forLogs (sel : Selection) (now : Timestamp) :
    (∃ start, start.offset = now.offset ∧ (Filters.forLogs sel.filters).forBody now =
      .ok (Filters.between start now (Filters.forLogs sel.filters))) ∨
    sel.TooEarly now ∧
      (Filters.forLogs sel.filters).forBody now = .error (.window .beforeFirstYear) :=
  sel.forBody_cases now (lookup?_forLogs sel) (Dict.keys_without "q" sel.filters).subset

theorem reaches_windowBody (keyId : Option Int) {P : Except Stop (Dict Json) → Screen → Prop}
    (hearly : sel.TooEarly env.now →
      P (.error (.fault (.filters (.window .beforeFirstYear)))) t)
    (hbody : ∀ start, start.offset = env.now.offset →
      P (.ok (summaryBody sel keyId start env.now)) t) :
    Reaches env t (windowBody sel.filters keyId) P := by
  rcases forBody_forLogs sel env.now with ⟨start, hstart, h⟩ | ⟨htoo, h⟩
  · refine .of_ends (fun s' hs => ?_) (hbody start hstart)
    rw [exec_windowBody keyId h]
    exact ⟨rfl, hs⟩
  · unfold windowBody
    refine .draw Draws.read fun _ henv => ?_
    rw [henv, h]
    exact .stop (fun s' hs => ⟨rfl, hs⟩) (hearly htoo)

theorem reaches_summarizeWindow (keys : List ApiKey) (h : Frame env (Upkeep env sel) s t) :
    Reaches env t (summarizeWindow sel.filters keys) (Keeping env sel s) := by
  obtain ⟨choice, hchoice⟩ := ends_chooseAssistantKey env t keys "window_ai_api_key"
  have hapart : State.Apart "window_ai_api_key" := by decide
  have hbox := h.put hapart (.str choice)
  unfold summarizeWindow
  refine .draw (Draws.write _ _) fun _ _ => .draw (Draws.write _ _) fun _ _ => .after hchoice ?_
  refine .draw (Draws.button _ _ _ _) fun pressed _ => ?_
  cases pressed with
  | false => exact .pure hbox
  | true =>
    refine .seq (A := fun body u => u = t.store (·.put "window_ai_api_key" (.str choice)) ∧
      Upkeep env sel (.summarize (.entries body)))
      (reaches_windowBody _ (fun htoo => ⟨hbox, .tooEarly htoo⟩)
        fun start hstart => ⟨rfl, .summarize _ hstart⟩) ?_
    rintro body _ ⟨rfl, hop⟩
    refine .draw (Draws.container _ _ _) fun spinner _ => .within _ ?_
    refine keeping_ask hbox hop fun answer u hu => ?_
    cases answer with
    | ok summary => exact keeping_drawn hu (draws_showSummary _)
    | error f => exact keeping_drawn hu (Draws.write _ _)

theorem reaches_exportSessions (h : Frame env (Upkeep env sel) s t) :
    Reaches env t (exportSessions sel.filters) (Keeping env sel s) := by
  unfold exportSessions
  refine .draw (Draws.button _ _ _ _) fun pressed _ => ?_
  extract_lets rest
  have hrest {u : Screen} (hu : Frame env (Upkeep env sel) s u) (r : Unit) :
      Reaches env u (rest r) (Keeping env sel s) := keeping_stored hu _ _
  cases pressed with
  | false => exact hrest h ()
  | true =>
    refine keeping_ask h .exportSessions fun answer u hu => ?_
    cases answer with
    | ok f => exact .store (hrest (hu.store rfl) ())
    | error f => exact .draw (Draws.write _ _) fun _ _ => hrest hu ()

theorem reaches_exportLogs (h : Frame env (Upkeep env sel) s t) :
    Reaches env t (exportLogs (Filters.forLogs sel.filters)) (Keeping env sel s) := by
  unfold exportLogs
  refine .draw (Draws.button _ _ _ _) fun pressed _ => ?_
  extract_lets rest
  have hrest {u : Screen} (hu : Frame env (Upkeep env sel) s u) (r : Unit) :
      Reaches env u (rest r) (Keeping env sel s) := keeping_stored hu _ _
  cases pressed with
  | false => exact hrest h ()
  | true =>
    refine .draw (Draws.container _ _ _) fun spinner _ => ?_
    refine .seq (A := fun _ u => Frame env (Upkeep env sel) s u) (.within _
      (keeping_ask h .exportLogs fun answer u hu => ?_)) fun _ u hu => hrest hu ()
    cases answer with
    | ok f => exact .of_ends (.store _) (hu.store rfl)
    | error f => exact keeping_drawn hu (Draws.write _ _)

theorem reaches_deleteLogs (h : Frame env (Upkeep env sel) s t) :
    Reaches env t (deleteLogs (Filters.forLogs sel.filters)) (Keeping env sel s) := by
  have hapart : State.Apart "confirm_delete_logs" := by decide
  have hbox := h.put hapart (.bool (env.pressed "confirm_delete_logs"))
  unfold deleteLogs
  refine .draw (Draws.write _ _) fun _ _ => .after (.checkbox _ _ _) ?_
  refine .draw (Draws.button _ _ _ _) fun pressed hpressed => ?_
  cases pressed with
  | false => exact .pure hbox
  | true =>
    have hboth : env.pressed "Delete matching logs" ∧ env.pressed "confirm_delete_logs" := by
      simpa using hpressed.symm
    refine .draw Draws.read fun _ henv => ?_
    rw [henv]
    rcases forBody_forLogs sel env.now with ⟨start, hstart, hbody⟩ | ⟨htoo, hbody⟩
    · rw [hbody]
      refine .after (.pure _) (keeping_ask hbox (.deleteLogs hboth.2 hboth.1 hstart)
        fun answer u hu => ?_)
      cases answer with
      | ok d => exact .draw (Draws.write _ _) fun _ _ => .pure hu
      | error f => exact .draw (Draws.write _ _) fun _ _ => .pure hu
    · rw [hbody]
      exact .stop (fun s' hs => ⟨rfl, hs⟩) ⟨hbox, .tooEarly htoo⟩

/-- The selection is all that the tab may take back. -/
theorem reaches_maintenance (keys : List ApiKey) :
    Reaches env s (maintenance sel.filters keys) fun r t =>
      ∃ u, Keeping env sel s r u ∧ (t = u ∨ t = u.store (·.put "current_session_id" .null)) := by
  -- whatever part stops the tab, the selection is not yet taken back then
  have hkept {α : Type} {p : Panel α} {t : Screen} (hp : Reaches env t p (Keeping env sel s)) :
      Reaches env t p (Branch (fun _ u => Frame env (Upkeep env sel) s u) fun e u =>
        ∃ v, Keeping env sel s (.error e : Except Stop Unit) v ∧
          (u = v ∨ u = v.store (·.put "current_session_id" .null))) :=
    hp.mono fun r u h => by
      cases r with
      | ok a => exact h
      | error e => exact ⟨u, h, .inl rfl⟩
  unfold maintenance
  refine .seq (hkept (reaches_summarizeWindow keys (.refl s))) fun _ t ht => ?_
  refine .draw (Draws.write _ _) fun _ _ => .draw (Draws.write _ _) fun _ _ => ?_
  refine .seq (hkept ?_) fun _ u hu => ?_
  · refine .draw (Draws.row _ _ _) fun columns _ => ?_
    refine .seq (.within _ (reaches_exportSessions ht)) fun _ u hu => ?_
    exact .within _ (reaches_exportLogs hu)
  refine .draw (Draws.write _ _) fun _ _ => .draw (Draws.write _ _) fun _ _ => ?_
  refine .seq (hkept (reaches_deleteLogs hu)) fun deleted v hv => ?_
  cases deleted with
  | false => exact .pure ⟨v, hv, .inl rfl⟩
  | true => exact .of_ends (.store _) ⟨v, hv, .inr rfl⟩

end Reaches
end ChatAudit.Console
