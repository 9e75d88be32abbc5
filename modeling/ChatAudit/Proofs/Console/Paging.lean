import ChatAudit.Proofs.Console.History
import ChatAudit.Proofs.Console.Requests
import Mathlib.Order.Bounds.Basic

/-! Which page of the list of sessions is asked for, over all runs. -/
namespace ChatAudit.Console
open Api Panel

section Count
variable {total size : Int}

/-- The pages are as few as hold all items, and at least one. -/
theorem isLeast_pageCount (total size : Int) :
    IsLeast {n : Int | 1 ≤ n ∧ (0 < size → total ≤ n * size)} (Pager.pageCount total size) := by
  unfold Pager.pageCount
  split_ifs with h
  · refine ⟨⟨Int.le_refl 1, fun hsize => ?_⟩, fun n hn => hn.1⟩
    omega
  · obtain ⟨hsize, htotal⟩ : 0 < size ∧ 0 < total := by omega
    -- the page count is `total / size` rounded up, so `omega` needs the remainder as well
    have hdiv := Int.mul_ediv_add_emod (total + size - 1) size
    have hmod := Int.emod_lt_of_pos (total + size - 1) hsize
    have hmod' := Int.emod_nonneg (total + size - 1) hsize.ne'
    refine ⟨⟨?_, fun _ => ?_⟩, fun n hn => ?_⟩
    · exact Int.le_ediv_of_mul_le hsize (by omega)
    · rw [Int.mul_comm]
      omega
    · have hn' := hn.2 hsize
      have hlt : (total + size - 1) / size < n + 1 := by
        refine Int.ediv_lt_of_lt_mul hsize ?_
        rw [Int.add_mul]
        omega
      omega

theorem one_le_pageCount (total size : Int) : 1 ≤ Pager.pageCount total size :=
  (isLeast_pageCount total size).1.1

end Count

section Steps
variable {env : Env} {sel : Selection} {s t : Screen} {p : Int}

/-- A step leads to one of the pages that there are. -/
theorem turn_bounds {total size n : Int} (h : env.turn total size p = some n) (hp : 1 ≤ p) :
    1 ≤ p + n ∧ (p ≤ Pager.pageCount total size → p + n ≤ Pager.pageCount total size) := by
  unfold Env.turn at h
  split_ifs at h with hsingle hback hforth
  · obtain rfl := Option.some.inj h
    omega
  · obtain rfl := Option.some.inj h
    omega

/-- The stored page and its filters. -/
def Core.paging (c : Core) : Option Json × Option Json := (c.page, c.filters)

/-- Whether the filters are the same and the page is any page number. -/
def Core.Moves (c c' : Core) : Prop :=
  c'.filters = c.filters ∧ ∃ p, 1 ≤ p ∧ c'.page = some (.int p)

theorem Core.Moves.congr {c c' c'' : Core} (h : c.Moves c') (heq : c''.paging = c'.paging) :
    c.Moves c'' := by
  obtain ⟨hpage, hfilters⟩ := Prod.mk.inj heq
  rwa [Core.Moves, hpage, hfilters]

theorem Core.Moves.trans {c c' c'' : Core} (h : c.Moves c') (h' : c'.Moves c'') : c.Moves c'' :=
  ⟨h'.1.trans h.1, h'.2⟩

theorem Core.Moves.refl {c : Core} (h : c.page = some (.int p)) (hp : 1 ≤ p) : c.Moves c :=
  ⟨rfl, p, hp, h⟩

theorem moves_of_listing {query : Filters} {r : Except Stop (Option (Page Session × Int))}
    (h : Listing env query s r t) (hpage : s.state.core.page = some (.int p)) (hp : 1 ≤ p) :
    s.state.core.Moves t.state.core := by
  have hsent : s.state.core.Moves (s.sent env (listing query)).state.core := by
    rw [core_sent]
    exact .refl hpage hp
  cases h with
  | lost | refused | settled => exact hsent
  | clamped =>
    rw [core_put_page, core_sent]
    exact ⟨rfl, _, one_le_pageCount _ _, rfl⟩

theorem moves_of_browsing {sessions : Page Session} {size : Int}
    {r : Except Stop (Option (Page Session × Option (Action × String)))}
    (h : Browsing env sessions size s r t) (hpage : s.state.core.page = some (.int p))
    (hp : 1 ≤ p) :
    s.state.core.Moves t.state.core := by
  cases h with
  | turned hpage' hturn =>
    obtain rfl := Json.int.inj (Option.some.inj (hpage'.symm.trans hpage))
    rw [core_put_page]
    exact ⟨rfl, _, (turn_bounds hturn hp).1, rfl⟩
  | chosen =>
    rw [Screen.store, core_ticks]
    exact .refl hpage hp

theorem paging_of_finishing {choice : Option (Page Session × Option (Action × String))}
    {r : Except Stop Unit} (h : Finishing env sel s choice r t) :
    t.state.core.paging = s.state.core.paging := by
  cases h with
  | unlisted | idle | tooEarly => rfl
  | selected => rw [core_put_current]; rfl
  | lost | bulkLost | bulkRefused => rw [core_sent]
  | deleted | bulkDeleted => rw [core_put_current, core_sent]; rfl

theorem paging_of_detailing {keys : List ApiKey} {r : Except Stop Unit}
    (h : Detailing env keys s r t) : t.state.core.paging = s.state.core.paging := by
  have hsummarized {id : Json} {keyId : Option Int} {u v : Screen} {r : Except Stop Unit}
      {logs : Page Log} (hu : Shows env s logs u) (h : Summarizing env id keyId u r v) :
      v.state.core.paging = s.state.core.paging := by
    rw [core_of_summarizing h, core_of_shows hu]
    rfl
  cases h with
  | unselected => rfl
  | lost | refused => rw [core_sent]
  | unsummarized hu h | shift hu h => exact hsummarized hu h
  | talking hu h _ htalk =>
    rw [← hsummarized hu h]
    cases htalk with
    | silent | noText => rfl
    | said => rw [core_withHistory, core_sent]; rfl

theorem moves_of_settling {r : Except Stop (Option (Page Session × Int))}
    (h : Settling env sel s r t) (hpage : s.state.core.page = some (.int p)) (hp : 1 ≤ p) :
    (∃ e, Asking env sel s (.error e) t ∧ r = .error e) ∨
      ∃ query u, Asking env sel s (.ok query) u ∧
        (s.state.core.synced sel.filters).Moves t.state.core := by
  cases h with
  | unasked h => exact .inl ⟨_, h, rfl⟩
  | asked h hlisting =>
    obtain ⟨q, hq, hq'⟩ := page_synced sel.filters hpage hp
    refine .inr ⟨_, _, h, ?_⟩
    rw [← (core_asked h).1] at hq ⊢
    exact moves_of_listing hlisting hq hq'

/-- Where the overview leads, if it gets as far as asking for the list. -/
theorem moves_of_overviewing {r : Except Stop Unit} (h : Overviewing env sel s r t)
    (hpage : s.state.core.page = some (.int p)) (hp : 1 ≤ p) :
    (∃ e, Asking env sel s (.error e) t) ∨ ∃ query u, Asking env sel s (.ok query) u ∧
      (s.state.core.synced sel.filters).Moves t.state.core := by
  have hchoosing {r : Except Stop (Option (Page Session × Option (Action × String)))} {t : Screen}
      (h : Choosing env sel s r t) : (∃ e, Asking env sel s (.error e) t ∧ r = .error e) ∨
        ∃ query u, Asking env sel s (.ok query) u ∧
          (s.state.core.synced sel.filters).Moves t.state.core := by
    cases h with
    | unsettled h =>
      refine (moves_of_settling h hpage hp).imp_left ?_
      rintro ⟨e, hasking, he⟩
      exact ⟨e, hasking, by rw [Except.error.inj he]⟩
    | unlisted h => exact .inr ((moves_of_settling h hpage hp).resolve_left (by simp))
    | browsed h hbrowsing =>
      obtain ⟨query, u, hasking, hmoves⟩ :=
        (moves_of_settling h hpage hp).resolve_left (by simp)
      obtain ⟨q, hq, hpage'⟩ := hmoves.2
      exact .inr ⟨query, u, hasking, hmoves.trans (moves_of_browsing hbrowsing hpage' hq)⟩
  cases h with
  | unchosen h =>
    refine (hchoosing h).imp_left ?_
    rintro ⟨e, hasking, -⟩
    exact ⟨e, hasking⟩
  | chosen h hend =>
    obtain ⟨query, u, hasking, hmoves⟩ := (hchoosing h).resolve_left (by simp)
    exact .inr ⟨query, u, hasking, hmoves.congr (paging_of_finishing hend)⟩

/-- Whether the stored page is one of the first `n`. -/
def Core.Within (n : Int) (c : Core) : Prop := ∃ p, c.page = some (.int p) ∧ 1 ≤ p ∧ p ≤ n

theorem within_of_settling {sessions : Page Session} {size : Int}
    (h : Settling env sel s (.ok (some (sessions, size))) t)
    (hpage : s.state.core.page = some (.int p)) (hp : 1 ≤ p) :
    t.state.core.Within (Pager.pageCount sessions.total size) := by
  obtain ⟨-, hcore, q, hq, hle⟩ := core_settled h
  obtain ⟨q', hq', hone⟩ := page_synced sel.filters hpage hp
  rw [← hcore, hq] at hq'
  obtain rfl := Json.int.inj (Option.some.inj hq')
  exact ⟨q, hq, hone, hle⟩

theorem within_of_browsing {sessions : Page Session} {size : Int}
    {r : Except Stop (Option (Page Session × Option (Action × String)))}
    (h : Browsing env sessions size s r t)
    (hwithin : s.state.core.Within (Pager.pageCount sessions.total size)) :
    t.state.core.Within (Pager.pageCount sessions.total size) := by
  obtain ⟨q, hq, hone, hle⟩ := hwithin
  cases h with
  | turned hpage hturn =>
    obtain rfl := Json.int.inj (Option.some.inj (hpage.symm.trans hq))
    obtain ⟨hone', hle'⟩ := turn_bounds hturn hone
    rw [core_put_page]
    exact ⟨_, rfl, hone', hle' hle⟩
  | chosen =>
    rw [Screen.store, core_ticks]
    exact ⟨q, hq, hone, hle⟩

/-- A page in range stays in range for the rest of the overview. -/
theorem within_of_overviewing {sessions : Page Session} {size : Int} {r : Except Stop Unit}
    {u : Screen} (hsettled : Settling env sel s (.ok (some (sessions, size))) u)
    (hwithin : u.state.core.Within (Pager.pageCount sessions.total size))
    (h : Overviewing env sel s r t) :
    t.state.core.Within (Pager.pageCount sessions.total size) := by
  have hchoosing {r : Except Stop (Option (Page Session × Option (Action × String)))} {t : Screen}
      (h : Choosing env sel s r t) : t.state.core.Within (Pager.pageCount sessions.total size) := by
    cases h with
    | unsettled h => cases (hsettled.unique h).1
    | unlisted h => cases (hsettled.unique h).1
    | browsed h hbrowsing =>
      obtain ⟨heq, rfl⟩ := hsettled.unique h
      obtain ⟨rfl, rfl⟩ := Prod.mk.inj (Option.some.inj (Except.ok.inj heq))
      exact within_of_browsing hbrowsing hwithin
  cases h with
  | unchosen h => exact hchoosing h
  | chosen h hend =>
    have hpaging := congrArg Prod.fst (paging_of_finishing hend)
    obtain ⟨q, hq, hbounds⟩ := hchoosing h
    exact ⟨q, hpaging.trans hq, hbounds⟩

/-- Once the query stands, it is sent. -/
theorem suffix_of_overviewing {query : Filters} {u : Screen}
    (hasked : Asking env sel s (.ok query) u) {r : Except Stop Unit}
    (h : Overviewing env sel s r t) :
    (u.sent env (listing query)).requests <:+ t.requests := by
  have hsettling {r : Except Stop (Option (Page Session × Int))} {t : Screen}
      (h : Settling env sel s r t) : t.requests = (u.sent env (listing query)).requests := by
    cases h with
    | unasked h => cases (hasked.unique h).1
    | asked h hlisting =>
      obtain ⟨hquery, rfl⟩ := hasked.unique h
      obtain rfl := Except.ok.inj hquery
      cases hlisting with
      | lost | refused | settled | clamped => rfl
  have hchoosing {r : Except Stop (Option (Page Session × Option (Action × String)))} {t : Screen}
      (h : Choosing env sel s r t) : t.requests = (u.sent env (listing query)).requests := by
    cases h with
    | unsettled h | unlisted h => exact hsettling h
    | browsed h hbrowsing =>
      rw [← hsettling h]
      cases hbrowsing with
      | turned | chosen => rfl
  cases h with
  | unchosen h => exact hchoosing h ▸ List.suffix_refl _
  | chosen h hend =>
    rw [← hchoosing h]
    exact (requests_of_finishing hend).1

end Steps

section Courses
variable {env : Env} {state : State} {keys : List ApiKey} {s t : Screen}

/-- The tabs after the overview leave the page and its filters alone. -/
theorem overviewing_of_course {r : Except Stop Unit} (h : Course env state r t) :
    (∃ e, (exec opening env { state }).1 = .error e) ∧ t.state.core = state.init.core ∨
      ∃ keys s r u, Opens env state keys s ∧ Overviewing env (env.filtering keys) s r u ∧
        t.state.core.paging = u.state.core.paging ∧ u.requests <:+ t.requests := by
  cases h with
  | unopened hexec hframe => exact .inl ⟨⟨_, hexec⟩, hframe.core⟩
  | stopped hopens hoverview =>
    exact .inr ⟨_, _, _, _, hopens, hoverview, rfl, List.suffix_refl _⟩
  | detailed hpasses hdetail =>
    have hsuffix := suffix_of_detailed hpasses hdetail
    exact .inr ⟨_, _, _, _, hpasses.opens, hpasses.course, paging_of_detailing hdetail, hsuffix⟩
  | @finished keys s u v w _ _ hpasses hdetail hupkeep hend =>
    have hframe := frame_of_keeping hupkeep
    have hsuffix := suffix_of_detailed hpasses hdetail
    refine .inr ⟨keys, s, _, u, hpasses.opens, hpasses.course, ?_⟩
    rw [← paging_of_detailing hdetail, ← hframe.core]
    rcases hend with rfl | rfl
    · exact ⟨rfl, hsuffix.trans hframe.since.suffix⟩
    · rw [core_put_current]
      exact ⟨rfl, hsuffix.trans hframe.since.suffix⟩

/-- Where a run leads, if it asks for the list. -/
theorem moves_of_course {r : Except Stop Unit} (hpaged : state.core.Paged)
    (h : Course env state r t) :
    env.lists state = none ∧ t.state.core.paging = state.init.core.paging ∨
      ∃ (sel : Selection) (query : Filters), env.lists state = some (sel.filters, query) ∧
        (state.init.core.synced sel.filters).Moves t.state.core := by
  rcases overviewing_of_course h with
    ⟨⟨e, hexec⟩, hcore⟩ | ⟨keys, s, r', u, hopens, hoverview, hpaging, -⟩
  · exact .inl ⟨lists_of_unopened hexec, congrArg Core.paging hcore⟩
  obtain ⟨p, hpage, hp⟩ := page_opened hpaged hopens
  rw [hpaging, ← core_opened hopens]
  rcases lists_of_opens hopens with ⟨e, v, hasking, hlists⟩ | ⟨query, v, hasking, hlists⟩
  · rcases moves_of_overviewing hoverview hpage hp with ⟨e', hasking'⟩ | ⟨query, w, hasking', -⟩
    · exact .inl ⟨hlists, by rw [core_unasked hasking']⟩
    · cases (hasking.unique hasking').1
  · rcases moves_of_overviewing hoverview hpage hp with ⟨e', hasking'⟩ | ⟨query', w, -, hmoves⟩
    · cases (hasking.unique hasking').1
    · exact .inr ⟨_, query, hlists, hmoves.congr hpaging⟩

end Courses

section Parts
variable (env : Env) (state : State)

/-- Whether a run takes the stored page back to the last one that there is, and starts over. -/
def Env.Clamps : Prop := (exec (upTo settling) env { state }).1 = .error .rerun

/-- The page that a run starts with. -/
def State.startPage (s : State) : Json := s.core.page.getD (.int 1)

/-- How the stored page moves in a run that starts with page `p`, where `last` are the filters that
the list was last asked for with. -/
structure Paging (last : Option Filters) (p : Int) : Prop where
  start : state.startPage = .int p
  one_le : 1 ≤ p
  /-- Only for other filters than before the first page is asked for. -/
  asked : ∀ filters query, env.lists state = some (filters, query) →
    ∃ q, 1 ≤ q ∧ query = listQuery filters (.int q) env.settings.sessionsPageSize ∧
      (last = some filters → q = p) ∧ (last ≠ some filters → q = 1)
  /-- The list is asked for then. -/
  sends : ∀ filters query, env.lists state = some (filters, query) → ∀ reply request,
    (env.client.perform (listing query) reply).request = some request →
      request ∈ (run page env state).2.requests
  /-- That is all that a run ever asks for the list with. -/
  sent : ∀ request ∈ (run page env state).2.requests, Source env (fun op => ∀ argument,
    op = .listSessions argument →
      ∃ filters query, env.lists state = some (filters, query) ∧ argument = .entries query) request
  /-- Past the check the page is one of those that there are, and it stays so. -/
  settled : ∀ sessions size t,
    exec (upTo settling) env { state } = (.ok (some (sessions, size)), t) →
      t.state.core.Within (Pager.pageCount sessions.total size) ∧
        (run page env state).2.state.core.Within (Pager.pageCount sessions.total size)
  clamped : env.Clamps state → (run page env state).1 = .error .rerun ∧
    (run page env state).2.state.core.Within (p - 1)

end Parts

/-- The filters that runs last asked for the list with. -/
def lastListed (state : State) : List Env → Option Filters
  | [] => none
  | env :: envs => (lastListed (run page env state).2.state envs).or
    ((env.lists state).map Prod.fst)

/-- Whether all runs take the page back and start over. -/
def Clamping (state : State) : List Env → Prop
  | [] => True
  | env :: envs => env.Clamps state ∧ Clamping (run page env state).2.state envs

/-- How the stored page and its filters stand to the filters that the list was last asked for
with. -/
structure Core.Follows (last : Option Filters) (c : Core) : Prop where
  paged : c.Paged
  filters : c.filters = last.map .obj
  selected : ∀ filters ∈ last, ∃ sel : Selection, sel.filters = filters

section Runs
variable {env : Env} {state : State} {last : Option Filters} {p : Int}

theorem Core.Moves.paged {c c' : Core} (h : c.Moves c') : c'.Paged := by
  obtain ⟨-, p, hp, hpage⟩ := h
  intro v hv
  rw [hpage] at hv
  exact ⟨p, hp, (Option.some.inj hv).symm⟩

/-- The page is kept only for the filters that it belongs to. -/
theorem Core.Follows.synced {c : Core} (h : c.Follows last) (sel : Selection) :
    (last = some sel.filters → c.synced sel.filters = c) ∧
    (last ≠ some sel.filters → c.synced sel.filters =
      { c with page := some (.int 1), filters := some (.obj sel.filters) }) := by
  have hknown : c.filters.elim false (Json.equal (.obj sel.filters)) = true ↔
      last = some sel.filters := by
    rw [h.filters]
    cases hlast : last with
    | none => simp
    | some filters =>
      obtain ⟨sel', rfl⟩ := h.selected filters hlast
      have hequal : some sel'.filters = some sel.filters ↔ sel.filters = sel'.filters := by
        rw [Option.some_inj, eq_comm]
      exact equal_filters.trans hequal.symm
  constructor
  · intro hlast
    rw [Core.synced, if_pos (hknown.mpr hlast)]
  · intro hlast
    rw [Core.synced, if_neg fun heq => hlast (hknown.mp heq)]

theorem follows_init (h : state.core.Follows last) : state.init.core.Follows last := by
  rw [State.core_init]
  refine ⟨fun v hv => ?_, h.filters, h.selected⟩
  obtain rfl := Option.some.inj hv
  cases hpage : state.core.page with
  | none => exact ⟨1, Int.le_refl 1, rfl⟩
  | some v => exact h.paged v hpage

/-- What a run leaves follows the filters that it asked with, if it asked. -/
theorem follows_run (env : Env) (h : state.core.Follows last) :
    (run page env state).2.state.core.Follows (((env.lists state).map Prod.fst).or last) := by
  obtain ⟨t, hdrawn, hcourse⟩ := course_of_run env h.paged
  have hinit := follows_init h
  rw [hdrawn.1]
  rcases moves_of_course h.paged hcourse with ⟨hlists, hpaging⟩ | ⟨sel, query, hlists, hmoves⟩
  · obtain ⟨hpage, hfilters⟩ := Prod.mk.inj hpaging
    rw [hlists]
    refine ⟨fun v hv => hinit.paged v ?_, hfilters.trans hinit.filters, h.selected⟩
    rwa [← hpage]
  · rw [hlists]
    refine ⟨hmoves.paged, hmoves.1.trans ?_, fun filters hm => ⟨sel, Option.some.inj hm⟩⟩
    by_cases hlast : last = some sel.filters
    · rw [(hinit.synced sel).1 hlast, hinit.filters, hlast]
      rfl
    · rw [(hinit.synced sel).2 hlast]
      rfl

theorem follows_runs (envs : List Env) (h : state.core.Follows last) :
    (runs state envs).core.Follows ((lastListed state envs).or last) := by
  induction envs generalizing state last with
  | nil => exact h
  | cons env envs ih =>
    have hrest := ih (follows_run env h)
    rwa [← Option.or_assoc] at hrest

theorem query_of_lists (h : state.core.Follows last) {filters query : Filters}
    (hlists : env.lists state = some (filters, query)) (hp : state.startPage = .int p) :
    (∃ sel : Selection, sel.filters = filters) ∧
    ∃ q, 1 ≤ q ∧ query = listQuery filters (.int q) env.settings.sessionsPageSize ∧
      (last = some filters → q = p) ∧ (last ≠ some filters → q = 1) := by
  rcases opens_cases env state with ⟨e, s, hexec, -⟩ | ⟨keys, s, hopens⟩
  · rw [lists_of_unopened hexec] at hlists
    cases hlists
  obtain ⟨rfl, u, hasking⟩ := asking_of_lists hopens hlists
  obtain ⟨p', hpage, hp'⟩ := page_opened h.paged hopens
  obtain ⟨q, hq, hone⟩ := page_synced (env.filtering keys).filters hpage hp'
  obtain ⟨hcore, hquery⟩ := core_asked hasking
  rw [← hcore] at hq
  refine ⟨⟨_, rfl⟩, q, hone, by rw [hquery, value_of_page hq], fun hlast => ?_, fun hlast => ?_⟩
  · rw [hcore, core_opened hopens, ((follows_init h).synced _).1 hlast, State.core_init] at hq
    exact Json.int.inj ((Option.some.inj hq).symm.trans hp)
  · rw [hcore, core_opened hopens, ((follows_init h).synced _).2 hlast] at hq
    exact (Json.int.inj (Option.some.inj hq)).symm

theorem answer_ne_rerun (op : Operation) (s : Screen) : env.answer op s ≠ .error .rerun := by
  intro h
  obtain ⟨f, -, -, hstop⟩ := fault_of_answerOf h
  cases hstop

/-- Only the check of the page starts a run over so early. -/
theorem clamped_of_settling {sel : Selection} {s t : Screen}
    (h : Settling env sel s (.error .rerun) t) {q : Int} (hq : s.state.core.page = some (.int q)) :
    (s.state.core.synced sel.filters).page = some (.int q) ∧ t.state.core.Within (q - 1) := by
  cases h with
  | unasked h =>
    cases h with
    | lost h => exact absurd h (answer_ne_rerun _ _)
  | asked h hlisting =>
    cases hlisting with
    | lost h => exact absurd h (answer_ne_rerun _ _)
    | @clamped sessions q' hanswer hpage hlt =>
      have hone := one_le_pageCount sessions.total (env.sizeOf sessions)
      rw [(core_asked h).1] at hpage
      have hkept : (s.state.core.synced sel.filters).page = s.state.core.page := by
        unfold Core.synced at hpage ⊢
        split_ifs at hpage ⊢
        · rfl
        · obtain rfl := Json.int.inj (Option.some.inj hpage)
          omega
      -- a page that was set to one is never taken back, so it is the stored page that was compared
      obtain rfl := Json.int.inj (Option.some.inj (hpage.symm.trans (hkept.trans hq)))
      refine ⟨hpage, _, by rw [core_put_page], hone, ?_⟩
      omega

/-- A run that takes the page back ends there, on an earlier page. -/
theorem within_of_clamps (hpaged : state.core.Paged) (h : env.Clamps state)
    (hp : state.startPage = .int p) : (run page env state).1 = .error .rerun ∧
      (run page env state).2.state.core.Within (p - 1) := by
  rcases opens_cases env state with ⟨e, s, hexec, -, -, t, hlost, -⟩ | ⟨keys, s, hopens⟩
  · have hstop : Except.error Stop.rerun = .error e := h.symm.trans (exec_upTo_of_unopened hexec)
    obtain rfl := Except.error.inj hstop
    exact absurd hlost (answer_ne_rerun _ _)
  have hpage : s.state.core.page = some (.int p) := by
    rw [core_opened hopens, State.core_init, ← hp]
    rfl
  obtain ⟨p', hpage', hone⟩ := page_opened hpaged hopens
  obtain ⟨u, hdrawn, hsettling⟩ := exec_upTo settling hopens (reaches_settling hpage' hone)
  -- what stops a part of the overview stops the whole page with the same screen
  have hwhole : exec page env { state } = (.error .rerun, (exec (upTo settling) env { state }).2) :=
    exec_page_of_error (fun filters => by rw [overview_eq, choosing, bind_assoc])
      (Prod.ext h rfl)
  rw [Env.Clamps] at h
  rw [h] at hsettling
  rw [run_eq_exec, hwhole, hdrawn.1]
  exact ⟨rfl, (clamped_of_settling hsettling hpage).2⟩

/-- From page `p` on the page is taken back `p - 1` times in a row at most. -/
theorem length_of_clamping (h : state.core.Paged) {envs : List Env}
    (hclamping : Clamping state envs) (hp : state.startPage = .int p) (hone : 1 ≤ p) :
    (envs.length : Int) ≤ p - 1 := by
  induction envs generalizing state p with
  | nil =>
    rw [List.length_nil]
    omega
  | cons env envs ih =>
    -- each such run leaves an earlier page, and no run leaves one before the first
    obtain ⟨-, q, hq, hone', hle⟩ := within_of_clamps h hclamping.1 hp
    have hpaged : (run page env state).2.state.core.Paged := by
      intro v hv
      rw [hq] at hv
      exact ⟨q, hone', (Option.some.inj hv).symm⟩
    have hstart : (run page env state).2.state.startPage = .int q := by
      rw [State.startPage, hq]
      rfl
    have hrest := ih hpaged hclamping.2 hstart hone'
    rw [List.length_cons]
    omega

theorem within_of_run (hpaged : state.core.Paged) {sessions : Page Session} {size : Int}
    {t : Screen} (h : exec (upTo settling) env { state } = (.ok (some (sessions, size)), t)) :
    t.state.core.Within (Pager.pageCount sessions.total size) ∧
      (run page env state).2.state.core.Within (Pager.pageCount sessions.total size) := by
  obtain ⟨v, hdrawn, hcourse⟩ := course_of_run env hpaged
  rcases overviewing_of_course hcourse with
    ⟨⟨e, hexec⟩, -⟩ | ⟨keys, s, r, w, hopens, hoverview, hpaging, -⟩
  · have hstop : (exec (upTo settling) env { state }).1 = .error e := exec_upTo_of_unopened hexec
    rw [h] at hstop
    cases hstop
  obtain ⟨p, hpage, hp⟩ := page_opened hpaged hopens
  obtain ⟨u, hu, hsettled⟩ := exec_upTo settling hopens (reaches_settling hpage hp)
  rw [h] at hu hsettled
  have hwithin := within_of_settling hsettled hpage hp
  obtain ⟨q, hq, hbounds⟩ := within_of_overviewing hsettled hwithin hoverview
  rw [hu.1, hdrawn.1]
  exact ⟨hwithin, q, (congrArg Prod.fst hpaging).trans hq, hbounds⟩

theorem request_of_lists (hpaged : state.core.Paged) {filters query : Filters}
    (hlists : env.lists state = some (filters, query)) {reply : Reply} {request : Request}
    (hrequest : (env.client.perform (listing query) reply).request = some request) :
    request ∈ (run page env state).2.requests := by
  obtain ⟨t, hdrawn, hcourse⟩ := course_of_run env hpaged
  rw [hdrawn.2]
  rcases overviewing_of_course hcourse with
    ⟨⟨e, hexec⟩, -⟩ | ⟨keys, s, r, v, hopens, hoverview, -, hsuffix⟩
  · rw [lists_of_unopened hexec] at hlists
    cases hlists
  obtain ⟨-, u, hasking⟩ := asking_of_lists hopens hlists
  have hsent : (env.client.perform (listing query)
      (env.gateway u.requests.length)).request = some request := by
    rw [← hrequest]
    exact Client.request_perform _ _ _ _
  have hhead : request ∈ (u.sent env (listing query)).requests := by
    rw [Screen.sent_of_request hsent]
    exact List.mem_cons_self
  exact ((suffix_of_overviewing hasking hoverview).trans hsuffix).subset hhead

theorem follows_start : Core.Follows none ({} : State).core := ⟨nofun, rfl, nofun⟩

theorem paged_of_runs (envs : List Env) : (runs {} envs).core.Paged :=
  (follows_runs envs follows_start).paged

theorem startPage_of_runs (envs : List Env) :
    ∃ p, (runs {} envs).startPage = .int p ∧ 1 ≤ p := by
  obtain ⟨p, hp, heq⟩ := (follows_init (follows_runs envs follows_start)).paged
    (runs {} envs).startPage (by rw [State.core_init]; rfl)
  exact ⟨p, heq, hp⟩

/-- Over all runs the stored page is at least one, and moves as it should. It belongs to the filters
of the latest run that asked for the list, whatever runs that broke off earlier were set to. -/
theorem paging_of_runs (envs : List Env) (env : Env) :
    ∃ p, Paging env (runs {} envs) (lastListed {} envs) p ∧
      (∀ later, Clamping (runs {} envs) later → (later.length : Int) ≤ p - 1) ∧
      ∀ total size, IsLeast {n : Int | 1 ≤ n ∧ (0 < size → total ≤ n * size)}
        (Pager.pageCount total size) := by
  have hfollows := follows_runs envs follows_start
  rw [Option.or_none] at hfollows
  have hpaged := hfollows.paged
  obtain ⟨p, hp, hone⟩ := startPage_of_runs envs
  refine ⟨p, ⟨hp, hone, ?_, ?_, ?_, ?_, ?_⟩, ?_, isLeast_pageCount⟩
  · exact fun filters query hlists => (query_of_lists hfollows hlists hp).2
  · exact fun filters query hlists reply request h => request_of_lists hpaged hlists h
  · intro request hm
    obtain ⟨op, hasked, hsends⟩ := asked_of_run hpaged hm
    refine ⟨op, ?_, hsends⟩
    rintro argument rfl
    cases hasked with
    | browsed hop =>
      cases hop with
      | list hlists => exact ⟨_, _, hlists, rfl⟩
    | removed hop | inspected hop | upkeep hop => cases hop
  · exact fun sessions size t h => within_of_run hpaged h
  · exact fun h => within_of_clamps hpaged h hp
  · exact fun later hclamping => length_of_clamping hpaged hclamping hp hone

end Runs

/-- A user on the page, and a gateway. -/
def browse (widgets : Dict Json) (gateway : Nat → Reply) : Env where
  client := Api.gateway
  settings := .ofEnvironment []
  now := noon
  widgets
  gateway

def hundredSessions : Reply := .response ⟨200, [], Charset.encodeUtf8
  "\x7b\"items\":[],\"total\":100,\"page\":1,\"page_size\":50\x7d".toList⟩

/-- A step to the second page, then a search that breaks off before the list is asked for. -/
def steps : List Env := [
  browse [("Next", .bool true)] fun n => if n = 2 then hundredSessions else .lost "",
  browse [("Keyword", .str "ssh")] fun n => if n = 1 then Api.hostless else .lost ""]

/-- What a run is set to. -/
def Env.filters (env : Env) (state : State) : Option Filters :=
  (exec opening env { state }).1.toOption.map fun opened => opened.2.1

/-- The run after a search that broke off asks for the second page, although its filters differ from
those of the search. -/
theorem second_page_after_search : ∃ before searched filters query,
    steps = before ++ [searched] ∧
      (browse [] fun _ => .lost "").lists (runs {} steps) = some (filters, query) ∧
      searched.filters (runs {} before) ≠ some filters ∧
      (query.lookup? "page").bind Json.toInt? = some 2 := by
  have hlists : (((browse [] fun _ => .lost "").lists (runs {} steps)).map fun asked =>
      ((Json.obj asked.1).write, (asked.2.lookup? "page").bind Json.toInt?)) =
        some ("\x7b\"time_range\":\"24h\"\x7d", some 2) := by decide +kernel
  have hsearched : ((steps[1].filters (runs {} [steps[0]])).map fun f => (Json.obj f).write) =
      some "\x7b\"time_range\":\"24h\",\"q\":\"ssh\"\x7d" := by decide +kernel
  obtain ⟨⟨filters, query⟩, heq, hasked⟩ := Option.map_eq_some_iff.mp hlists
  obtain ⟨hfilters, hpage⟩ := Prod.mk.inj hasked
  refine ⟨[steps[0]], steps[1], filters, query, rfl, heq, fun hsame => ?_, hpage⟩
  rw [hsame, Option.map_some, hfilters] at hsearched
  exact absurd (Option.some.inj hsearched) (by decide)

end ChatAudit.Console
