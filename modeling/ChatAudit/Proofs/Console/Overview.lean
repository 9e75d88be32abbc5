import ChatAudit.Proofs.Console.Core
import ChatAudit.Proofs.Console.DeleteAll
import ChatAudit.Proofs.Console.Reaches

/-! The overview as far as the user's choice: the query for the list, the page in range. -/
namespace ChatAudit.Console
open Api Panel

section Stages

/-- The overview as far as the query for the list of sessions. -/
def asking (filters : Filters) : Panel Filters := do
  showOverviewStatistics filters
  write "divider"
  sessionsQuery filters (← read).settings.sessionsPageSize

/-- The overview as far as a page of sessions, if there is one, that lies in range. -/
def settling (filters : Filters) : Panel (Option (Page Session × Int)) := do
  let default := (← read).settings.sessionsPageSize
  match ← ask (.listSessions (.entries (← asking filters))) with
  | .error f =>
    error "Failed to load sessions" f
    return none
  | .ok sessions =>
    let size := if sessions.size = 0 then default else sessions.size
    clampPage sessions.total size
    return some (sessions, size)

/-- The overview as far as what the user wants done with one of the sessions. -/
def choosing (filters : Filters) : Panel (Option (Page Session × Option (Action × String))) := do
  match ← settling filters with
  | none => return none
  | some (sessions, size) =>
    write "subheader" ["Sessions (" ++ toString sessions.total ++ ")"]
    pageSteps sessions.total size
    return some (sessions, ← showSessions sessions.items ((← getState).value "current_session_id"))

end Stages

section Courses
variable (env : Env) (sel : Selection)

abbrev statisticsFor (filters : Filters) : Operation := .statistics (.entries filters.forLogs)

abbrev listing (query : Filters) : Operation := .listSessions (.entries query)

/-- The size of the pages, the configured one unless the gateway names another. -/
def Env.sizeOf (sessions : Page Session) : Int :=
  if sessions.size = 0 then env.settings.sessionsPageSize else sessions.size

/-- Whether a size is no double. -/
def TooLarge (stats : Statistics) : Prop :=
  Amount.bytesOfInt? stats.estimatedBytes = none ∨ Amount.bytesOfInt? stats.tableBytes = none

/-- How the overview goes as far as the query for the list of sessions. -/
inductive Asking (s : Screen) : Except Stop Filters → Screen → Prop
  | lost {e : Stop} (h : env.answer (statisticsFor sel.filters) s = .error e) :
    Asking s (.error e) (s.sent env (statisticsFor sel.filters))
  | tooLarge {stats : Statistics} (h : env.answer (statisticsFor sel.filters) s = .ok (.ok stats))
    (hsize : TooLarge stats) :
    Asking s (.error (.fault .tooLarge)) (s.sent env (statisticsFor sel.filters))
  | asked {answer : Except Failure Statistics} {t : Screen}
    (h : env.answer (statisticsFor sel.filters) s = .ok answer)
    (hsize : ∀ stats, answer = .ok stats → ¬TooLarge stats)
    (ht : t = (s.sent env (statisticsFor sel.filters)).store fun st =>
      { st with values := Pager.sync sel.filters sessionsKey st.values }) :
    Asking s (.ok (listQuery sel.filters (t.state.value (Pager.pageKey sessionsKey))
      env.settings.sessionsPageSize)) t

/-- What becomes of the request for the list. A page after the last one starts the run over. -/
inductive Listing (query : Filters) (s : Screen) :
    Except Stop (Option (Page Session × Int)) → Screen → Prop
  | lost {e : Stop} (h : env.answer (listing query) s = .error e) :
    Listing query s (.error e) (s.sent env (listing query))
  | refused {f : Failure} (h : env.answer (listing query) s = .ok (.error f)) :
    Listing query s (.ok none) (s.sent env (listing query))
  | clamped {sessions : Page Session} {p : Int}
    (h : env.answer (listing query) s = .ok (.ok sessions))
    (hpage : s.state.core.page = some (.int p))
    (hlt : Pager.pageCount sessions.total (env.sizeOf sessions) < p) :
    Listing query s (.error .rerun) ((s.sent env (listing query)).store
      (·.put (Pager.pageKey sessionsKey)
        (.int (Pager.pageCount sessions.total (env.sizeOf sessions)))))
  | settled {sessions : Page Session} {p : Int}
    (h : env.answer (listing query) s = .ok (.ok sessions))
    (hpage : s.state.core.page = some (.int p))
    (hle : p ≤ Pager.pageCount sessions.total (env.sizeOf sessions)) :
    Listing query s (.ok (some (sessions, env.sizeOf sessions))) (s.sent env (listing query))

/-- How the overview goes as far as a page of sessions. -/
inductive Settling (s : Screen) : Except Stop (Option (Page Session × Int)) → Screen → Prop
  | unasked {e : Stop} {t : Screen} (h : Asking env sel s (.error e) t) : Settling s (.error e) t
  | asked {query : Filters} {t u : Screen} {r : Except Stop (Option (Page Session × Int))}
    (h : Asking env sel s (.ok query) t) (hlisting : Listing env query t r u) : Settling s r u

/-- The step from page `p` that the user takes; the buttons are off where there is no page. -/
def Env.turn (total size p : Int) : Option Int :=
  if size = 0 ∨ total ≤ size then none
  else if 1 < p ∧ env.pressed "Previous" then some (-1)
  else if p < Pager.pageCount total size ∧ env.pressed "Next" then some 1
  else none

/-- What the user wants done with a session. -/
def Env.wants (session : Session) : Option Action :=
  if env.pressed ("session_" ++ session.sessionId) then some .select
  else if env.pressed ("delete_" ++ session.sessionId) then some .delete
  else none

/-- What the user wants done with the first session that something is to be done with. -/
def Env.wanted : List Session → Option (Action × String)
  | [] => none
  | session :: rest =>
    match env.wants session with
    | some action => some (action, session.sessionId)
    | none => Env.wanted rest

def Env.tick (session : Session) (st : State) : State :=
  st.put (bulkKey session.sessionId) (.bool (env.pressed (bulkKey session.sessionId)))

/-- The sessions whose boxes the user ticked. -/
def Env.ticked (sessions : List Session) : List String :=
  (sessions.map (·.sessionId)).filter fun id => env.pressed (bulkKey id)

/-- The boxes of the sessions as far as that one. -/
def Env.ticks : List Session → State → State
  | [], st => st
  | session :: rest, st =>
    if (env.wants session).isSome then env.tick session st
    else Env.ticks rest (env.tick session st)

/-- What the user does with a page of sessions that lies in range. -/
inductive Browsing (sessions : Page Session) (size : Int) (s : Screen) :
    Except Stop (Option (Page Session × Option (Action × String))) → Screen → Prop
  | turned {p n : Int} (hpage : s.state.core.page = some (.int p))
    (hturn : env.turn sessions.total size p = some n) :
    Browsing sessions size s (.error .rerun)
      (s.store (·.put (Pager.pageKey sessionsKey) (.int (p + n))))
  | chosen {p : Int} (hpage : s.state.core.page = some (.int p))
    (hturn : env.turn sessions.total size p = none) :
    Browsing sessions size s (.ok (some (sessions, env.wanted sessions.items)))
      (s.store (env.ticks sessions.items))

/-- How the overview goes as far as the user's choice. -/
inductive Choosing (s : Screen) :
    Except Stop (Option (Page Session × Option (Action × String))) → Screen → Prop
  | unsettled {e : Stop} {t : Screen} (h : Settling env sel s (.error e) t) :
    Choosing s (.error e) t
  | unlisted {t : Screen} (h : Settling env sel s (.ok none) t) : Choosing s (.ok none) t
  | browsed {sessions : Page Session} {size : Int} {t u : Screen}
    {r : Except Stop (Option (Page Session × Option (Action × String)))}
    (h : Settling env sel s (.ok (some (sessions, size))) t)
    (hbrowsing : Browsing env sessions size t r u) : Choosing s r u

end Courses

section Reaches
variable {env : Env} {sel : Selection} {s : Screen} {p : Int}

theorem ends_storedPage : Ends env s storedPage
    (.ok (s.state.value (Pager.pageKey sessionsKey))) s :=
  .bind .getState (.pure _)

theorem value_of_page (h : s.state.core.page = some (.int p)) :
    s.state.value (Pager.pageKey sessionsKey) = .int p := by
  have hlookup : s.state.values.lookup? "sessions_page" = some (.int p) := h
  simp [State.value, pageKey_sessions, hlookup]

theorem ends_sessionsQuery (sel : Selection) (size : Int) :
    Ends env s (sessionsQuery sel.filters size)
      (.ok (listQuery sel.filters ((s.store fun st =>
        { st with values := Pager.sync sel.filters sessionsKey st.values }).state.value
          (Pager.pageKey sessionsKey)) size))
      (s.store fun st => { st with values := Pager.sync sel.filters sessionsKey st.values }) := by
  unfold sessionsQuery
  refine .bind (.store _) (.bind ends_storedPage ?_)
  rw [listQuery_eq]
  exact .pure _

theorem reaches_showStatistics {stats : Statistics} {P : Except Stop Unit → Screen → Prop}
    (hok : ¬TooLarge stats → P (.ok ()) s)
    (hlarge : TooLarge stats → P (.error (.fault .tooLarge)) s) :
    Reaches env s (showStatistics stats) P := by
  have hfail {n : Int} (hn : Amount.bytesOfInt? n = none) :
      Ends env s (bytesText n) (.error (.fault .tooLarge)) s := by
    unfold bytesText
    rw [hn]
    exact fun _ hs => ⟨rfl, hs⟩
  have hpure {n : Int} {text : String} (hn : Amount.bytesOfInt? n = some text) :
      Ends env s (bytesText n) (.ok text) s := by
    unfold bytesText
    rw [hn]
    exact .pure text
  unfold showStatistics
  refine .draw (Draws.write _ _) fun _ _ => .draw (Draws.row _ _ _) fun columns _ => ?_
  refine .draw (Draws.forM fun _ _ => .post _) fun _ _ => ?_
  cases hestimated : Amount.bytesOfInt? stats.estimatedBytes with
  | none => exact .stop (hfail hestimated) (hlarge (.inl hestimated))
  | some estimated =>
    refine .after (hpure hestimated) ?_
    cases htable : Amount.bytesOfInt? stats.tableBytes with
    | none => exact .stop (hfail htable) (hlarge (.inr htable))
    | some table =>
      have hfits : ¬TooLarge stats := by simp [TooLarge, hestimated, htable]
      refine .after (hpure htable) (.draw (Draws.write _ _) fun _ _ => ?_)
      split_ifs
      · refine .draw (Draws.write _ _) fun _ _ => .draw (Draws.row _ _ _) fun _ _ => ?_
        exact .drawn (Draws.forM fun _ _ => .post _) fun _ _ => hok hfits
      · exact .pure (hok hfits)

theorem reaches_asking : Reaches env s (asking sel.filters) (Asking env sel s) := by
  have hquery {answer : Except Failure Statistics}
      (h : env.answer (statisticsFor sel.filters) s = .ok answer)
      (hsize : ∀ stats, answer = .ok stats → ¬TooLarge stats) :
      Reaches env (s.sent env (statisticsFor sel.filters)) (do
        write "divider"
        sessionsQuery sel.filters (← read).settings.sessionsPageSize) (Asking env sel s) := by
    refine .draw (Draws.write _ _) fun _ _ => .draw Draws.read fun _ henv => ?_
    rw [henv]
    exact .of_ends (ends_sessionsQuery sel _) (.asked h hsize rfl)
  unfold asking showOverviewStatistics
  rw [bind_assoc]
  refine .ask (fun answer hanswer => ?_) fun e he => .lost he
  cases answer with
  | error f =>
    have hsize : ∀ stats, Except.error f = .ok stats → ¬TooLarge stats := by simp
    exact .draw (Draws.write _ _) fun _ _ => hquery hanswer hsize
  | ok stats =>
    refine .seq (A := fun _ t => t = s.sent env (statisticsFor sel.filters) ∧ ¬TooLarge stats)
      (reaches_showStatistics (fun hfits => ⟨rfl, hfits⟩) fun hlarge => .tooLarge hanswer hlarge) ?_
    rintro _ _ ⟨rfl, hfits⟩
    exact hquery hanswer fun _ hstats => Except.ok.inj hstats ▸ hfits

/-- The stored page is compared as the number that it is. -/
theorem reaches_clampPage {total size : Int} {P : Except Stop Unit → Screen → Prop}
    (hpage : s.state.core.page = some (.int p))
    (hle : p ≤ Pager.pageCount total size → P (.ok ()) s)
    (hlt : Pager.pageCount total size < p → P (.error .rerun)
      (s.store (·.put (Pager.pageKey sessionsKey) (.int (Pager.pageCount total size))))) :
    Reaches env s (clampPage total size) P := by
  have hstored : Pager.page sessionsKey s.state.values = .int p := by
    have hlookup : s.state.values.lookup? "sessions_page" = some (.int p) := hpage
    simp [Pager.page, pageKey_sessions, hlookup]
  have hclamp : Pager.clamp total size sessionsKey s.state.values =
      if Pager.pageCount total size < p then .ok (true, s.state.values.put
        (Pager.pageKey sessionsKey) (.int (Pager.pageCount total size)))
      else .ok (false, s.state.values) := by
    by_cases h : Pager.pageCount total size < p <;>
      simp [Pager.clamp, hstored, Json.above?, Json.toInt?, h]
  unfold clampPage
  refine .getState ?_
  rw [hclamp]
  by_cases h : Pager.pageCount total size < p
  · rw [if_pos h]
    exact .store (.rerun (hlt h))
  · rw [if_neg h]
    exact .store (.pure (hle (Int.not_lt.mp h)))

theorem core_asked {query : Filters} {t : Screen} (h : Asking env sel s (.ok query) t) :
    t.state.core = s.state.core.synced sel.filters ∧
      query = listQuery sel.filters (t.state.value (Pager.pageKey sessionsKey))
        env.settings.sessionsPageSize := by
  cases h with
  | asked h hsize ht =>
    have hcore : t.state.core = (s.sent env (statisticsFor sel.filters)).state.core.synced
        sel.filters := by
      rw [ht]
      exact State.core_sync _ _
    exact ⟨by rw [hcore, core_sent], rfl⟩

theorem core_unasked {e : Stop} {t : Screen} (h : Asking env sel s (.error e) t) :
    t.state.core = s.state.core := by
  cases h with
  | lost | tooLarge => exact core_sent _

theorem core_ticks (sessions : List Session) (st : State) :
    (env.ticks sessions st).core = st.core := by
  induction sessions generalizing st with
  | nil => rfl
  | cons session rest ih =>
    have htick : (env.tick session st).core = st.core :=
      State.core_put_of_apart (State.apart_bulkKey _) _ _
    unfold Env.ticks
    split_ifs
    · exact htick
    · exact (ih _).trans htick

theorem value_tick (session : Session) (st : State) (key : String) :
    (env.tick session st).value key =
      if bulkKey session.sessionId = key then .bool (env.pressed key) else st.value key := by
  unfold Env.tick State.value State.put
  rw [Dict.lookup?_put]
  split_ifs with h
  · rw [h]
    rfl
  · rfl

/-- All boxes are stored as the user left them, unless something is to be done with a session. -/
theorem value_ticks {sessions : List Session} (h : env.wanted sessions = none) (st : State)
    (key : String) : (env.ticks sessions st).value key =
      if key ∈ sessions.map fun session => bulkKey session.sessionId then .bool (env.pressed key)
      else st.value key := by
  -- boxes that share a name are pressed together, so the last one stored says the same
  induction sessions generalizing st with
  | nil => rfl
  | cons session rest ih =>
    cases hwants : env.wants session with
    | some action => simp [Env.wanted, hwants] at h
    | none =>
      have hrest : env.wanted rest = none := by simpa [Env.wanted, hwants] using h
      have hticks : env.ticks (session :: rest) st = env.ticks rest (env.tick session st) := by
        simp [Env.ticks, hwants]
      rw [hticks, ih hrest, value_tick]
      by_cases hkey : bulkKey session.sessionId = key
      · simp [hkey]
      · simp [hkey, Ne.symm hkey]

/-- What is wanted is the press of a button of one of the sessions. -/
theorem pressed_of_wanted {sessions : List Session} {action : Action} {id : String}
    (h : env.wanted sessions = some (action, id)) :
    id ∈ sessions.map (·.sessionId) ∧ env.pressed (action.button id) := by
  induction sessions with
  | nil => cases h
  | cons session rest ih =>
    unfold Env.wanted at h
    cases hwants : env.wants session with
    | none =>
      rw [hwants] at h
      obtain ⟨hmem, hpressed⟩ := ih h
      exact ⟨List.mem_cons_of_mem _ hmem, hpressed⟩
    | some wanted =>
      rw [hwants] at h
      obtain ⟨rfl, rfl⟩ := Prod.mk.inj (Option.some.inj h)
      refine ⟨List.mem_cons_self, ?_⟩
      unfold Env.wants at hwants
      split_ifs at hwants with hselect hdelete
      · obtain rfl := Option.some.inj hwants
        exact hselect
      · obtain rfl := Option.some.inj hwants
        exact hdelete

theorem page_synced {c : Core} (filters : Filters) (hpage : c.page = some (.int p)) (hp : 1 ≤ p) :
    ∃ q, (c.synced filters).page = some (.int q) ∧ 1 ≤ q := by
  unfold Core.synced
  split_ifs
  · exact ⟨p, hpage, hp⟩
  · exact ⟨1, rfl, Int.le_refl 1⟩

theorem reaches_settling (hpage : s.state.core.page = some (.int p)) (hp : 1 ≤ p) :
    Reaches env s (settling sel.filters) (Settling env sel s) := by
  unfold settling
  refine .draw Draws.read fun _ henv => ?_
  rw [henv]
  refine .bind reaches_asking (fun query t hasked => ?_) fun e t h => .unasked h
  obtain ⟨q, hq, -⟩ := page_synced sel.filters hpage hp
  rw [← (core_asked hasked).1] at hq
  have hsent : (t.sent env (listing query)).state.core.page = some (.int q) := by
    rw [core_sent, hq]
  refine .ask (fun answer hanswer => ?_) fun e he => .asked hasked (.lost he)
  cases answer with
  | error f => exact .draw (Draws.write _ _) fun _ _ => .pure (.asked hasked (.refused hanswer))
  | ok sessions =>
    refine .seq (A := fun _ u => u = t.sent env (listing query) ∧
      q ≤ Pager.pageCount sessions.total (env.sizeOf sessions))
      (reaches_clampPage hsent (fun hle => ⟨rfl, hle⟩)
        fun hlt => .asked hasked (.clamped hanswer hq hlt)) ?_
    rintro _ _ ⟨rfl, hle⟩
    exact .pure (.asked hasked (.settled hanswer hq hle))

/-- A button that steps to another page. -/
theorem reaches_pageButton {label operator : String} {isOff : Json → Option Bool} {off : Bool}
    {n : Int} {P : Except Stop Unit → Screen → Prop} (hpage : s.state.core.page = some (.int p))
    (hoff : isOff (.int p) = some off) (hidle : ¬(off = false ∧ env.pressed label) → P (.ok ()) s)
    (hturn : off = false ∧ env.pressed label → P (.error .rerun)
      (s.store (·.put (Pager.pageKey sessionsKey) (.int (p + n))))) :
    Reaches env s (do if ← pageButton label operator isOff then turnPage n) P := by
  unfold pageButton turnPage
  rw [bind_assoc]
  refine .after ends_storedPage ?_
  rw [value_of_page hpage, hoff]
  dsimp only
  refine .draw (Draws.button _ _ _ _) fun pressed hpressed => ?_
  have hboth : pressed = true ↔ off = false ∧ env.pressed label := by
    rw [hpressed]
    simp [and_comm]
  cases pressed with
  | false => exact .pure (hidle (by simpa using hboth))
  | true =>
    rw [if_pos rfl]
    refine .after ends_storedPage ?_
    rw [value_of_page hpage]
    exact .store (.rerun (hturn (hboth.mp rfl)))

theorem reaches_pageSteps {total size : Int} {P : Except Stop Unit → Screen → Prop}
    (hpage : s.state.core.page = some (.int p)) (hidle : env.turn total size p = none → P (.ok ()) s)
    (hturn : ∀ n, env.turn total size p = some n → P (.error .rerun)
      (s.store (·.put (Pager.pageKey sessionsKey) (.int (p + n))))) :
    Reaches env s (pageSteps total size) P := by
  have hprevious : ((Json.int p).above? 1).map (!·) = some (!decide (1 < p)) := rfl
  have hnext : (Json.int p).atLeast? (Pager.pageCount total size) =
      some (!decide (p < Pager.pageCount total size)) := by
    rw [← decide_not, decide_eq_decide.mpr Int.not_lt]
    rfl
  unfold pageSteps
  by_cases hsingle : size = 0 ∨ total ≤ size
  · have hoff : (decide (size = 0) || decide (total ≤ size)) = true := by simpa using hsingle
    rw [if_pos hoff]
    exact .pure (hidle (if_pos hsingle))
  have hon : ¬(decide (size = 0) || decide (total ≤ size)) = true := by simpa using hsingle
  rw [if_neg hon]
  refine .draw (Draws.row _ _ _) fun columns _ => ?_
  refine .seq (A := fun _ t => t = s ∧ ¬(1 < p ∧ env.pressed "Previous"))
    (.within _ (reaches_pageButton hpage hprevious (fun h => ⟨rfl, by simpa using h⟩) ?_)) ?_
  · intro h
    have hback : 1 < p ∧ env.pressed "Previous" := by simpa using h
    exact hturn (-1) (by rw [Env.turn, if_neg hsingle, if_pos hback])
  rintro _ t ⟨rfl, hback⟩
  refine .seq (A := fun _ u => u = t) (.within _ (.after ends_storedPage
    (.drawn (Draws.write _ _) fun _ _ => rfl))) ?_
  rintro _ _ rfl
  refine .within _ (reaches_pageButton hpage hnext (fun h => hidle ?_) fun h => hturn 1 ?_)
  · have hforth : ¬(p < Pager.pageCount total size ∧ env.pressed "Next") := by simpa using h
    rw [Env.turn, if_neg hsingle, if_neg hback, if_neg hforth]
  · have hforth : p < Pager.pageCount total size ∧ env.pressed "Next" := by simpa using h
    rw [Env.turn, if_neg hsingle, if_neg hback, if_pos hforth]

theorem ends_showSession (session : Session) (current : Json) :
    Ends env s (showSession session current) (.ok (env.wants session))
      (s.store (env.tick session)) := by
  unfold showSession
  refine .draw (Draws.container _ _ _) fun c _ => .within _ ?_
  refine .draw (Draws.row _ _ _) fun columns _ => ?_
  refine .bind (.within _ (.bind (.checkbox _ _ _) (.pure ()))) ?_
  have hselect (column : String) : Draws env (within column do
      let selected ← button (sessionTitle session) (some ("session_" ++ session.sessionId)) none
        [("use_container_width", .bool true),
          ("type", .str (if current.equal (.str session.sessionId) then "primary" else "secondary"))]
      if !selected then write "caption" [sessionCaption session]
      return selected) (· = env.pressed ("session_" ++ session.sessionId)) := by
    refine .within _ ((Draws.button _ _ _ _).bind fun selected hselected => ?_)
    have heq : selected = env.pressed ("session_" ++ session.sessionId) := by simpa using hselected
    split_ifs
    · exact (Draws.write _ _).bind fun _ _ => .pure heq
    · exact .pure heq
  refine .draw (hselect _) fun selected hselected => ?_
  unfold Env.wants
  rw [hselected]
  by_cases hpressed : env.pressed ("session_" ++ session.sessionId)
  · rw [if_pos hpressed, if_pos hpressed]
    exact .pure _
  · rw [if_neg hpressed, if_neg hpressed]
    refine .within _ (.draw (Draws.button _ _ _ _) fun deleted hdeleted => ?_)
    have heq : deleted = env.pressed ("delete_" ++ session.sessionId) := by simpa using hdeleted
    rw [heq]
    exact .pure _

theorem ends_firstAction (current : Json) (sessions : List Session) :
    Ends env s (firstAction current sessions) (.ok (env.wanted sessions))
      (s.store (env.ticks sessions)) := by
  induction sessions generalizing s with
  | nil => exact .pure none
  | cons session rest ih =>
    refine .bind (ends_showSession session current) ?_
    cases hwants : env.wants session with
    | some action =>
      have hticks : env.ticks (session :: rest) = env.tick session :=
        funext fun st => by simp [Env.ticks, hwants]
      rw [hticks, Env.wanted, hwants]
      exact .pure _
    | none =>
      have hticks : env.ticks (session :: rest) = env.ticks rest ∘ env.tick session :=
        funext fun st => by simp [Env.ticks, hwants]
      rw [hticks, Env.wanted, hwants]
      exact ih

theorem ends_showSessions (sessions : List Session) (current : Json) :
    Ends env s (showSessions sessions current) (.ok (env.wanted sessions))
      (s.store (env.ticks sessions)) := by
  unfold showSessions
  cases sessions with
  | nil => exact .draw (Draws.write _ _) fun _ _ => .pure none
  | cons session rest => exact ends_firstAction current (session :: rest)

theorem core_settled {sessions : Page Session} {size : Int} {t : Screen}
    (h : Settling env sel s (.ok (some (sessions, size))) t) :
    size = env.sizeOf sessions ∧ t.state.core = s.state.core.synced sel.filters ∧
      ∃ q, t.state.core.page = some (.int q) ∧ q ≤ Pager.pageCount sessions.total size := by
  obtain - | ⟨hasked, hlisting⟩ := h
  cases hlisting with
  | @settled sessions q hanswer hpage hle =>
    exact ⟨rfl, by rw [core_sent, (core_asked hasked).1], q, by rw [core_sent, hpage], hle⟩

theorem core_chosen {choice : Option (Page Session × Option (Action × String))} {t : Screen}
    (h : Choosing env sel s (.ok choice) t) : t.state.core = s.state.core.synced sel.filters := by
  cases h with
  | unlisted h =>
    cases h with
    | asked hasked hlisting =>
      cases hlisting with
      | refused => rw [core_sent, (core_asked hasked).1]
  | browsed h hbrowsing =>
    cases hbrowsing with
    | chosen =>
      rw [Screen.store, core_ticks]
      exact (core_settled h).2.1

theorem reaches_choosing (hpage : s.state.core.page = some (.int p)) (hp : 1 ≤ p) :
    Reaches env s (choosing sel.filters) (Choosing env sel s) := by
  unfold choosing
  refine .bind (reaches_settling hpage hp) (fun settled t h => ?_) fun e t h => .unsettled h
  cases settled with
  | none => exact .pure (.unlisted h)
  | some settled =>
    obtain ⟨sessions, size⟩ := settled
    obtain ⟨-, -, q, hq, -⟩ := core_settled h
    refine .draw (Draws.write _ _) fun _ _ => ?_
    refine .seq (A := fun _ u => u = t ∧ env.turn sessions.total size q = none)
      (reaches_pageSteps hq (fun hn => ⟨rfl, hn⟩) fun n hn => .browsed h (.turned hq hn)) ?_
    rintro _ u ⟨rfl, hturn⟩
    exact .getState (.after (ends_showSessions _ _) (.pure (.browsed h (.chosen hq hturn))))

end Reaches

section Unique
variable {env : Env} {sel : Selection} {s t t' : Screen}

theorem Asking.unique {r r' : Except Stop Filters} (h : Asking env sel s r t)
    (h' : Asking env sel s r' t') : r = r' ∧ t = t' := by
  cases h <;> cases h' <;> simp_all

theorem Listing.unique {query : Filters} {r r' : Except Stop (Option (Page Session × Int))}
    (h : Listing env query s r t) (h' : Listing env query s r' t') : r = r' ∧ t = t' := by
  cases h <;> cases h' <;> simp_all <;> omega

theorem Settling.unique {r r' : Except Stop (Option (Page Session × Int))}
    (h : Settling env sel s r t) (h' : Settling env sel s r' t') : r = r' ∧ t = t' := by
  obtain h | ⟨h, hlisting⟩ := h
  · obtain h' | ⟨h', -⟩ := h'
    · obtain ⟨hr, rfl⟩ := h.unique h'
      exact ⟨by rw [Except.error.inj hr], rfl⟩
    · cases (h.unique h').1
  · obtain h' | ⟨h', hlisting'⟩ := h'
    · cases (h.unique h').1
    · obtain ⟨hquery, rfl⟩ := h.unique h'
      obtain rfl := Except.ok.inj hquery
      exact hlisting.unique hlisting'

theorem Browsing.unique {sessions : Page Session} {size : Int}
    {r r' : Except Stop (Option (Page Session × Option (Action × String)))}
    (h : Browsing env sessions size s r t) (h' : Browsing env sessions size s r' t') :
    r = r' ∧ t = t' := by
  cases h <;> cases h' <;> simp_all

theorem Choosing.unique {r r' : Except Stop (Option (Page Session × Option (Action × String)))}
    (h : Choosing env sel s r t) (h' : Choosing env sel s r' t') : r = r' ∧ t = t' := by
  cases h with
  | unsettled h =>
    cases h' with
    | unsettled h' =>
      obtain ⟨he, rfl⟩ := h.unique h'
      exact ⟨by rw [Except.error.inj he], rfl⟩
    | unlisted h' => cases (h.unique h').1
    | browsed h' _ => cases (h.unique h').1
  | unlisted h =>
    cases h' with
    | unsettled h' => cases (h.unique h').1
    | unlisted h' => exact ⟨rfl, (h.unique h').2⟩
    | browsed h' _ => cases (h.unique h').1
  | browsed h hbrowsing =>
    cases h' with
    | unsettled h' => cases (h.unique h').1
    | unlisted h' => cases (h.unique h').1
    | browsed h' hbrowsing' =>
      obtain ⟨hsettled, rfl⟩ := h.unique h'
      obtain ⟨rfl, rfl⟩ := Prod.mk.inj (Option.some.inj (Except.ok.inj hsettled))
      exact hbrowsing.unique hbrowsing'

end Unique
end ChatAudit.Console
