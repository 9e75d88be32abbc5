import ChatAudit.Proofs.Console.Overview

/-! What the overview does about the user's choice. -/
namespace ChatAudit.Console
open Api Panel

section Stages

/-- What a run works with does not change. -/
theorem read_bind {α β : Type} (p : Panel α) (f : Env → α → Panel β) :
    (read >>= fun env => p >>= f env) = p >>= fun a => read >>= fun env => f env a := rfl

def bulk (sessions : List Session) (filters : Filters) : Panel Unit := do
  if !sessions.isEmpty then
    if ← bulkActions sessions filters then
      setCurrent .null
      rerun

/-- What the overview does about the user's choice. -/
def finishing (filters : Filters) : Option (Page Session × Option (Action × String)) → Panel Unit
  | none => return
  | some (sessions, none) => bulk sessions.items filters
  | some (sessions, some (action, id)) => do
    setCurrent (← act action.name (.str id))
    rerun
    bulk sessions.items filters

theorem overview_eq (filters : Filters) :
    overview filters = choosing filters >>= finishing filters := by
  have hread {α : Type} (f : Env → Env → Panel α) :
      (read >>= fun env => read >>= f env) = read >>= fun env => f env env := rfl
  unfold overview choosing settling asking showSessionPage
  simp only [bind_assoc]
  -- the overview reads the settings first, its stages only once they need them
  rw [read_bind]
  refine bind_congr fun _ => ?_
  rw [read_bind]
  refine bind_congr fun _ => ?_
  rw [hread]
  refine bind_congr fun env => bind_congr fun query => bind_congr fun answer => ?_
  cases answer with
  | error f => simp only [bind_assoc, pure_bind, finishing, bind_pure_unit]
  | ok sessions =>
    simp only [bind_assoc, pure_bind]
    refine bind_congr fun _ => bind_congr fun _ => bind_congr fun _ => ?_
    refine bind_congr fun _ => bind_congr fun action => ?_
    cases action with
    | none | some => rfl

end Stages

section Courses
variable (env : Env) (sel : Selection)

/-- The sessions whose boxes are stored as ticked. -/
def State.selected (sessions : List Session) (st : State) : List String :=
  (sessions.map (·.sessionId)).filter fun id => (st.value (bulkKey id)).present

/-- What a press of one of the two buttons below the list asks for. -/
inductive Bulk (sessions : List Session) (st : State) : Operation → Prop
  | selected (hne : st.selected sessions ≠ [])
    (hpressed : env.pressed ("Delete selected (" ++ toString (st.selected sessions).length ++ ")")) :
    Bulk sessions st
      (.deleteSessions (.entries [("session_ids", .arr ((st.selected sessions).map .str))]))
  | all {start : Timestamp} (hconfirmed : env.pressed "Confirm delete of all matching sessions")
    (hpressed : env.pressed "Delete all matching") (hstart : start.offset = env.now.offset) :
    Bulk sessions st
      (.deleteSessions (.entries (deletionBody sel.filters start env.now)))

/-- The session that is current after a deletion. -/
def afterDeletion (answer : Except Failure Deletion) (id : String) (current : Json) : Json :=
  if answer.isOk && current.equal (.str id) then .null else current

/-- How the overview ends after the user's choice. -/
inductive Finishing (s : Screen) : Option (Page Session × Option (Action × String)) →
    Except Stop Unit → Screen → Prop
  | unlisted : Finishing s none (.ok ()) s
  | selected {sessions : Page Session} {id : String} :
    Finishing s (some (sessions, some (.select, id))) (.error .rerun)
      ((s.store fun st => { st with summary := some none, turns := some [] }).store
        (·.put "current_session_id" (.str id)))
  | lost {sessions : Page Session} {id : String} {e : Stop}
    (h : env.answer (.deleteSession id .null .null) s = .error e) :
    Finishing s (some (sessions, some (.delete, id))) (.error e)
      (s.sent env (.deleteSession id .null .null))
  | deleted {sessions : Page Session} {id : String} {answer : Except Failure Deletion}
    (h : env.answer (.deleteSession id .null .null) s = .ok answer) :
    Finishing s (some (sessions, some (.delete, id))) (.error .rerun)
      ((s.sent env (.deleteSession id .null .null)).store
        (·.put "current_session_id" (afterDeletion answer id s.state.core.current)))
  | idle {sessions : Page Session} : Finishing s (some (sessions, none)) (.ok ()) s
  | tooEarly {sessions : Page Session} (h : sel.TooEarly env.now) :
    Finishing s (some (sessions, none)) (.error (.fault (.filters (.window .beforeFirstYear)))) s
  | bulkLost {sessions : Page Session} {op : Operation} {e : Stop}
    (hop : Bulk env sel sessions.items s.state op) (h : env.answer op s = .error e) :
    Finishing s (some (sessions, none)) (.error e) (s.sent env op)
  | bulkRefused {sessions : Page Session} {op : Operation} {f : Failure}
    (hop : Bulk env sel sessions.items s.state op) (h : env.answer op s = .ok (.error f)) :
    Finishing s (some (sessions, none)) (.ok ()) (s.sent env op)
  | bulkDeleted {sessions : Page Session} {op : Operation} {d : op.Answer}
    (hop : Bulk env sel sessions.items s.state op) (h : env.answer op s = .ok (.ok d)) :
    Finishing s (some (sessions, none)) (.error .rerun)
      ((s.sent env op).store (·.put "current_session_id" .null))

end Courses

section Reaches
variable {env : Env} {sel : Selection} {s : Screen}

theorem selected_ticks {sessions : List Session} (h : env.wanted sessions = none) (st : State) :
    (env.ticks sessions st).selected sessions = env.ticked sessions := by
  refine List.filter_congr fun id hid => ?_
  obtain ⟨session, hsession, rfl⟩ := List.mem_map.mp hid
  have hkey : bulkKey session.sessionId ∈ sessions.map fun session => bulkKey session.sessionId :=
    List.mem_map_of_mem hsession
  rw [value_ticks h, if_pos hkey]
  rfl

theorem ends_act_select (id : String) : Ends env s (act Action.select.name (.str id))
    (.ok (.str id)) (s.store fun st => { st with summary := some none, turns := some [] }) :=
  .bind .getState (.bind (.store _) (.pure _))

theorem reaches_act_delete (id : String) {P : Except Stop Json → Screen → Prop}
    (hlost : ∀ e, env.answer (.deleteSession id .null .null) s = .error e →
      P (.error e) (s.sent env (.deleteSession id .null .null)))
    (hanswer : ∀ answer, env.answer (.deleteSession id .null .null) s = .ok answer →
      P (.ok (afterDeletion answer id s.state.core.current))
        (s.sent env (.deleteSession id .null .null))) :
    Reaches env s (act Action.delete.name (.str id)) P := by
  refine .getState (.ask (fun answer h => ?_) hlost)
  cases answer with
  | error f => exact .draw (Draws.write _ _) fun _ _ => .pure (hanswer _ h)
  | ok d => exact .draw (Draws.write _ _) fun _ _ => .pure (hanswer _ h)

theorem reaches_deleteSessions {body : Dict Json} {P : Except Stop Bool → Screen → Prop}
    (hlost : ∀ e, env.answer (.deleteSessions (.entries body)) s = .error e →
      P (.error e) (s.sent env (.deleteSessions (.entries body))))
    (hrefused : ∀ f, env.answer (.deleteSessions (.entries body)) s = .ok (.error f) →
      P (.ok false) (s.sent env (.deleteSessions (.entries body))))
    (hdeleted : ∀ d, env.answer (.deleteSessions (.entries body)) s = .ok (.ok d) →
      P (.ok true) (s.sent env (.deleteSessions (.entries body)))) :
    Reaches env s (deleteSessions body) P := by
  refine .ask (fun answer h => ?_) hlost
  cases answer with
  | error f => exact .draw (Draws.write _ _) fun _ _ => .pure (hrefused f h)
  | ok d => exact .draw (Draws.write _ _) fun _ _ => .pure (hdeleted d h)

theorem ends_selectedIds (sessions : List Session) : Ends env s (selectedIds sessions)
    (.ok (s.state.selected sessions)) s :=
  .bind .getState (.pure _)

/-- The body of a deletion of all matching sessions, unless the range reaches too far back. -/
theorem reaches_deleteAllBody {P : Except Stop (Dict Json) → Screen → Prop}
    (hearly : sel.TooEarly env.now →
      P (.error (.fault (.filters (.window .beforeFirstYear)))) s)
    (hbody : ∀ start, start.offset = env.now.offset →
      P (.ok (deletionBody sel.filters start env.now)) s) :
    Reaches env s (deleteAllBody sel.filters) P := by
  rcases sel.forBody_cases env.now sel.lookup?_range (List.Subset.refl _) with
    ⟨start, hstart, h⟩ | ⟨htoo, h⟩
  · refine .of_ends (fun s' hs => ?_) (hbody start hstart)
    rw [exec_deleteAllBody h]
    exact ⟨rfl, hs⟩
  · refine .of_ends (fun s' hs => ?_) (hearly htoo)
    rw [exec_deleteAllBody_error h]
    exact ⟨rfl, hs⟩

theorem reaches_bulkActions {sessions : List Session} {P : Except Stop Bool → Screen → Prop}
    (hidle : P (.ok false) s)
    (hearly : sel.TooEarly env.now →
      P (.error (.fault (.filters (.window .beforeFirstYear)))) s)
    (hlost : ∀ op e, Bulk env sel sessions s.state op → env.answer op s = .error e →
      P (.error e) (s.sent env op))
    (hrefused : ∀ op f, Bulk env sel sessions s.state op → env.answer op s = .ok (.error f) →
      P (.ok false) (s.sent env op))
    (hdeleted : ∀ op d, Bulk env sel sessions s.state op → env.answer op s = .ok (.ok d) →
      P (.ok true) (s.sent env op)) :
    Reaches env s (bulkActions sessions sel.filters) P := by
  have hdelete {body : Dict Json}
      (hop : Bulk env sel sessions s.state (.deleteSessions (.entries body)))
      {P' : Except Stop Bool → Screen → Prop} (hP : ∀ r t, P r t → P' r t) :
      Reaches env s (deleteSessions body) P' :=
    reaches_deleteSessions (fun e h => hP _ _ (hlost _ e hop h))
      (fun f h => hP _ _ (hrefused _ f hop h)) fun d h => hP _ _ (hdeleted _ d hop h)
  unfold bulkActions
  refine .after (ends_selectedIds sessions) (.draw (Draws.row _ _ _) fun columns _ => ?_)
  refine .seq (A := fun done t => done.elim (t = s) fun done => P (.ok done) t)
    (.within _ (.draw (Draws.button _ _ _ _) fun pressed hpressed => ?_)) ?_
  · cases pressed with
    | false => exact .pure rfl
    | true =>
      have hboth : env.pressed
          ("Delete selected (" ++ toString (s.state.selected sessions).length ++ ")") ∧
            s.state.selected sessions ≠ [] := by
        simpa using hpressed.symm
      refine .bind (hdelete (.selected hboth.2 hboth.1) fun _ _ h => h) (fun done t h => ?_)
        fun e t h => h
      exact .pure h
  · rintro (_ | done) t h
    · obtain rfl : t = s := h
      refine .within _ (.draw (Draws.checkbox _ _) fun confirmed hconfirmed => ?_)
      refine .draw (Draws.button _ _ _ _) fun pressed hpressed => ?_
      cases pressed with
      | false => exact .pure hidle
      | true =>
        have hboth : env.pressed "Delete all matching" ∧ confirmed := by
          simpa using hpressed.symm
        refine .seq (A := fun body u => u = t ∧ ∃ start, start.offset = env.now.offset ∧
          body = deletionBody sel.filters start env.now)
          (reaches_deleteAllBody hearly fun start hstart => ⟨rfl, start, hstart, rfl⟩) ?_
        rintro _ _ ⟨rfl, start, hstart, rfl⟩
        exact hdelete (.all (hconfirmed ▸ hboth.2) hboth.1 hstart) fun _ _ h => h
    · exact .pure h

theorem reaches_finishing (choice : Option (Page Session × Option (Action × String))) :
    Reaches env s (finishing sel.filters choice) (Finishing env sel s choice) := by
  match choice with
  | none => exact .pure .unlisted
  | some (sessions, some (.select, id)) =>
    exact .after (ends_act_select id) (.store (.stop .rerun .selected))
  | some (sessions, some (.delete, id)) =>
    refine .seq (A := fun current t => ∃ answer,
      env.answer (.deleteSession id .null .null) s = .ok answer ∧
      current = afterDeletion answer id s.state.core.current ∧
      t = s.sent env (.deleteSession id .null .null))
      (reaches_act_delete id (fun e => .lost) fun answer h => ⟨answer, h, rfl, rfl⟩) ?_
    rintro _ _ ⟨answer, h, rfl, rfl⟩
    exact .store (.stop .rerun (.deleted h))
  | some (sessions, none) =>
    change Reaches env s (bulk sessions.items sel.filters) _
    unfold bulk
    split_ifs
    · refine .seq (A := fun done t => if done then
          Finishing env sel s (some (sessions, none)) (.error .rerun)
            (t.store (·.put "current_session_id" .null))
        else Finishing env sel s (some (sessions, none)) (.ok ()) t)
        (reaches_bulkActions .idle .tooEarly (fun op e => .bulkLost) (fun op f => .bulkRefused)
          fun op d => .bulkDeleted) ?_
      rintro (_ | _) t h
      · exact .pure h
      · exact .store (.rerun h)
    · exact .pure .idle

end Reaches
end ChatAudit.Console
