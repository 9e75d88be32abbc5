import ChatAudit.Proofs.Console.Choice
import ChatAudit.Proofs.Console.SessionTab
import ChatAudit.Proofs.Console.Upkeep

/-! How a run of the page goes, tab after tab. -/
namespace ChatAudit.Console
open Api Panel

/-- The page as far as the tabs: the keys, the filters and the names of the tabs. -/
def opening : Panel (List ApiKey × Filters × List String) := do
  let settings := (← read).settings
  post {
    target := "", function := "set_page_config"
    options := textOptions [("page_title", .str settings.pageTitle),
      ("page_icon", .str settings.pageIcon), ("layout", .str settings.layout),
      ("initial_sidebar_state", .str "expanded")] }
  modifyState State.init
  post { target := "sidebar", function := "title", arguments := [.value (.str settings.pageTitle)] }
  let keys ← loadKeys
  let filters ← sidebar keys settings.defaultTimeRange
  let titles := ["Overview", "Session", "Maintenance"]
  let tabs ← row "tabs" (.arr (titles.map .str)) titles.length
  return (keys, filters, tabs)

/-- The page as far as a part of the overview. -/
def upTo {α : Type} (part : Filters → Panel α) : Panel α :=
  opening >>= fun opened => within (opened.2.2.getD 0 "") (part opened.2.1)

theorem page_eq : page = opening >>= fun opened => (do
    within (opened.2.2.getD 0 "") (overview opened.2.1)
    within (opened.2.2.getD 1 "") (detail opened.1)
    within (opened.2.2.getD 2 "") (maintenance opened.2.1 opened.1)) := by
  simp only [page, opening, bind_assoc, pure_bind]

/-- What the user put into the sidebar. -/
abbrev Env.filtering (env : Env) (keys : List ApiKey) : Selection :=
  env.selection keys env.settings.defaultTimeRange

section Courses
variable (env : Env)

/-- Whether a run gets as far as the tabs, with these keys. -/
structure Opens (state : State) (keys : List ApiKey) (s : Screen) : Prop where
  frame : Frame env (· = .listApiKeys) (Screen.store State.init { state }) s
  exec : ∃ tabs t, Panel.exec opening env { state } =
    (.ok (keys, (env.filtering keys).filters, tabs), t) ∧ s.Drawn t

/-- How the overview goes. -/
inductive Overviewing (sel : Selection) (s : Screen) : Except Stop Unit → Screen → Prop
  | unchosen {e : Stop} {t : Screen} (h : Choosing env sel s (.error e) t) :
    Overviewing sel s (.error e) t
  | chosen {choice : Option (Page Session × Option (Action × String))} {r : Except Stop Unit}
    {t u : Screen} (h : Choosing env sel s (.ok choice) t) (hend : Finishing env sel t choice r u) :
    Overviewing sel s r u

/-- Whether a run gets past the overview. -/
structure Passes (state : State) (keys : List ApiKey) (s t : Screen) : Prop where
  opens : Opens env state keys s
  course : Overviewing env (env.filtering keys) s (.ok ()) t
  exec : ∃ u, Panel.exec (upTo overview) env { state } = (.ok (), u) ∧ t.Drawn u

/-- How a run of the page goes. -/
inductive Course (state : State) : Except Stop Unit → Screen → Prop
  | unopened {e : Stop} {s : Screen}
    (hexec : (Panel.exec opening env { state }).1 = .error e)
    (hframe : Frame env (· = .listApiKeys) (Screen.store State.init { state }) s)
    (hlost : Lost env .listApiKeys e s) : Course state (.error e) s
  | stopped {keys : List ApiKey} {s t : Screen} {e : Stop} (hopens : Opens env state keys s)
    (hoverview : Overviewing env (env.filtering keys) s (.error e) t)
    (hexec : (Panel.exec (upTo overview) env { state }).1 = .error e) : Course state (.error e) t
  | detailed {keys : List ApiKey} {s t u : Screen} {e : Stop} (hpasses : Passes env state keys s t)
    (hdetail : Detailing env keys t (.error e) u) : Course state (.error e) u
  | finished {keys : List ApiKey} {s t u v w : Screen} {r : Except Stop Unit}
    (hpasses : Passes env state keys s t) (hdetail : Detailing env keys t (.ok ()) u)
    (hupkeep : Keeping env (env.filtering keys) u r v)
    (hend : w = v ∨ w = v.store (·.put "current_session_id" .null)) : Course state r w

end Courses

/-- Whether the stored page, if there is one, is a page number. -/
def Core.Paged (c : Core) : Prop := ∀ v ∈ c.page, ∃ p, 1 ≤ p ∧ v = .int p

section Reaches
variable {env : Env} {state : State} {keys : List ApiKey} {s : Screen}

theorem reaches_loadKeys : Reaches env s loadKeys (Branch
    (fun _ t => Frame env (· = .listApiKeys) s t)
    fun e t => Frame env (· = .listApiKeys) s t ∧ Lost env .listApiKeys e t) := by
  unfold loadKeys
  refine .getState ?_
  split
  · exact .pure (.refl s)
  · have hasked : Frame env (· = .listApiKeys) s (s.sent env .listApiKeys) :=
      (Frame.refl s).ask rfl
    refine .ask (fun answer hanswer => ?_) fun e he => ⟨hasked, lost_of_answer he⟩
    cases answer with
    | ok keys => exact .store (.pure (hasked.store rfl))
    | error f => exact .draw (Draws.post _) fun _ _ => .pure hasked

theorem reaches_opening : Reaches env s opening (Branch
    (fun opened t => Frame env (· = .listApiKeys) (s.store State.init) t ∧
      opened.2.1 = (env.filtering opened.1).filters)
    fun e t => Frame env (· = .listApiKeys) (s.store State.init) t ∧
      Lost env .listApiKeys e t) := by
  unfold opening
  refine .draw Draws.read fun _ henv => ?_
  rw [henv]
  refine .draw (Draws.post _) fun _ _ => .store (.draw (Draws.post _) fun _ _ => ?_)
  refine .seq reaches_loadKeys fun keys t ht => ?_
  refine .draw (draws_sidebar _ _) fun filters hfilters => ?_
  exact .draw (Draws.row _ _ _) fun tabs _ => .pure ⟨ht, hfilters⟩

theorem core_opened (h : Opens env state keys s) : s.state.core = state.init.core := h.frame.core

theorem page_opened (hpaged : state.core.Paged) (h : Opens env state keys s) :
    ∃ p, s.state.core.page = some (.int p) ∧ 1 ≤ p := by
  have hinit : s.state.core.page = some (state.core.page.getD (.int 1)) := by
    rw [h.frame.core]
    exact congrArg Core.page (State.core_init state)
  rw [hinit]
  cases hpage : state.core.page with
  | none => exact ⟨1, rfl, Int.le_refl 1⟩
  | some v =>
    obtain ⟨p, hp, rfl⟩ := hpaged v hpage
    exact ⟨p, rfl, hp⟩

theorem reaches_overview {sel : Selection} {p : Int} (hpage : s.state.core.page = some (.int p))
    (hp : 1 ≤ p) : Reaches env s (overview sel.filters) (Overviewing env sel s) := by
  rw [overview_eq]
  refine .bind (reaches_choosing hpage hp) (fun choice t h => ?_) fun e t h => .unchosen h
  exact (reaches_finishing choice).mono fun r u hend => .chosen h hend

/-- What holds at the end of a part of the overview in a run that gets as far as the tabs. -/
theorem exec_upTo {α : Type} (part : Filters → Panel α) {P : Except Stop α → Screen → Prop}
    (h : Opens env state keys s) (hpart : Reaches env s (part (env.filtering keys).filters) P) :
    ∃ t, t.Drawn (exec (upTo part) env { state }).2 ∧ P (exec (upTo part) env { state }).1 t := by
  obtain ⟨tabs, u, hexec, hdrawn⟩ := h.exec
  rw [upTo, exec_bind, hexec]
  exact (hpart.within (tabs.getD 0 "")) u hdrawn

/-- A run gets as far as the tabs, unless the request for the keys comes to nothing. -/
theorem opens_cases (env : Env) (state : State) :
    (∃ e s, (exec opening env { state }).1 = .error e ∧ s.Drawn (exec opening env { state }).2 ∧
      Frame env (· = .listApiKeys) (Screen.store State.init { state }) s ∧
      Lost env .listApiKeys e s) ∨
    ∃ keys s, Opens env state keys s := by
  obtain ⟨s, hdrawn, hopening⟩ := @reaches_opening env _ { state } (.refl _)
  rcases hexec : exec opening env { state } with ⟨e | ⟨keys, filters, tabs⟩, t⟩
  · rw [hexec] at hdrawn hopening
    exact .inl ⟨e, s, rfl, hdrawn, hopening⟩
  · rw [hexec] at hdrawn hopening
    obtain ⟨hframe, rfl⟩ : _ ∧ filters = (env.filtering keys).filters := hopening
    exact .inr ⟨keys, s, hframe, tabs, t, hexec, hdrawn⟩

/-- Every run takes one of these courses. -/
theorem course_of_run (env : Env) (hpaged : state.core.Paged) :
    ∃ t, t.Drawn (run page env state).2 ∧ Course env state (run page env state).1 t := by
  rw [run_eq_exec, page_eq, exec_bind]
  rcases opens_cases env state with ⟨e, s, hexec, hdrawn, hframe, hlost⟩ | ⟨keys, s, hopens⟩
  · rcases hexec' : exec opening env { state } with ⟨r, t⟩
    rw [hexec'] at hdrawn
    obtain rfl : r = .error e := by rw [← hexec, hexec']
    exact ⟨s, hdrawn, .unopened hexec hframe hlost⟩
  obtain ⟨tabs, s₀, hexec, hdrawn⟩ := hopens.exec
  obtain ⟨p, hpage, hp⟩ := page_opened hpaged hopens
  obtain ⟨t, ht, hoverview⟩ := exec_upTo overview hopens (reaches_overview hpage hp)
  -- the overview is the same whether it is carried out from here or along with the opening
  have hupTo : exec (within (tabs.getD 0 "") (overview (env.filtering keys).filters)) env s₀ =
      exec (upTo overview) env { state } := by
    rw [upTo, exec_bind, hexec]
  rw [hexec]
  dsimp only
  rw [exec_bind, hupTo]
  rcases hexec' : exec (upTo overview) env { state } with ⟨e | _, t₀⟩
  · rw [hexec'] at ht hoverview
    exact ⟨t, ht, .stopped hopens hoverview (by rw [hexec'])⟩
  rw [hexec'] at ht hoverview
  have hpasses : Passes env state keys s t := ⟨hopens, hoverview, t₀, hexec', ht⟩
  have hrest : Reaches env t (do
      within (tabs.getD 1 "") (detail keys)
      within (tabs.getD 2 "") (maintenance (env.filtering keys).filters keys))
      (Course env state) := by
    refine .bind (.within _ (reaches_detail keys)) (fun _ u hdetail => ?_)
      fun e u hdetail => .detailed hpasses hdetail
    refine .within _ ((reaches_maintenance keys).mono ?_)
    rintro r w ⟨v, hupkeep, hend⟩
    exact .finished hpasses hdetail hupkeep hend
  exact hrest t₀ ht

/-- Where a part of the overview stops a run, nothing follows. -/
theorem exec_page_of_error {α : Type} {part : Filters → Panel α} {rest : Filters → α → Panel Unit}
    {e : Stop} {t : Screen} (hrest : ∀ filters, overview filters = part filters >>= rest filters)
    (h : exec (upTo part) env s = (.error e, t)) : exec page env s = (.error e, t) := by
  rw [upTo, exec_bind] at h
  rw [page_eq, exec_bind]
  rcases hopening : exec opening env s with ⟨e' | opened, s₀⟩
  · rw [hopening] at h
    obtain ⟨he, rfl⟩ := Prod.mk.inj h
    rw [Except.error.inj he]
  rw [hopening] at h
  dsimp only at h ⊢
  have hoverview : exec (within (opened.2.2.getD 0 "") (overview opened.2.1)) env s₀ =
      (.error e, t) := by
    rw [exec_within] at h ⊢
    rw [hrest, exec_bind]
    rcases hpart : exec (part opened.2.1) env _ with ⟨e' | a, u⟩
    · rw [hpart] at h
      obtain ⟨he, ht⟩ := Prod.mk.inj h
      rw [← ht, Except.error.inj he]
    · rw [hpart] at h
      cases (Prod.mk.inj h).1
  rw [exec_bind, hoverview]

end Reaches
end ChatAudit.Console
