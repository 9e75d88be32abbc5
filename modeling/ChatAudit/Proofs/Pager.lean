import ChatAudit.Pager
import ChatAudit.Proofs.Dict
import Mathlib.Tactic.SplitIfs

/-! Lists that are loaded page by page under different keys do not touch each other. -/
namespace ChatAudit.Pager

section Keys
variable {key other : String}

theorem pageKey_inj : pageKey key = pageKey other ↔ key = other :=
  String.append_left_inj "_page"

theorem filtersKey_inj : filtersKey key = filtersKey other ↔ key = other :=
  String.append_left_inj "_filters"

/-- The last letter tells the two entries apart, whatever the keys end in themselves. -/
theorem pageKey_ne_filtersKey (key other : String) : pageKey key ≠ filtersKey other := by
  intro h
  have hlast := congrArg (fun s => s.toList.getLast?) h
  simp [pageKey, filtersKey] at hlast

end Keys

/-- What is asked for a list: its page under some filters, or whether the page it is at is there. -/
inductive Action
  | sync (filters : Dict Json)
  | clamp (total size : Int)

/-- An action on the list with a key. -/
structure Call where
  key : String
  action : Action

/-- What a call gives back and the state that it leaves: the page to load, or whether the page was
moved. A call that faults leaves the state as it was. -/
def Call.run (c : Call) (state : Dict Json) : Except Fault Json × Dict Json :=
  match c.action with
  | .sync filters =>
    let next := sync filters c.key state
    (.ok (page c.key next), next)
  | .clamp total size =>
    match clamp total size c.key state with
    | .ok (moved, next) => (.ok (.bool moved), next)
    | .error f => (.error f, state)

/-- Calls one after another, each with what it gives back, and the state at the end. -/
def runAll : List Call → Dict Json → List (Call × Except Fault Json) × Dict Json
  | [], state => ([], state)
  | c :: calls, state =>
    let (result, next) := c.run state
    let (results, last) := runAll calls next
    ((c, result) :: results, last)

/-- Whether two states have the same page and the same filters for a list. -/
def Agree (key : String) (s t : Dict Json) : Prop :=
  s.lookup? (pageKey key) = t.lookup? (pageKey key) ∧
    s.lookup? (filtersKey key) = t.lookup? (filtersKey key)

/-- Whether the page of a list is a whole number; a list without a page is at the first. -/
def Counts (key : String) (state : Dict Json) : Prop := ∃ n, page key state = .int n

/-- Whether a value is a page for `sync`, and a truth value for `clamp`. -/
def Action.Answers : Action → Json → Prop
  | .sync _, v => ∃ n, v = .int n
  | .clamp .., v => ∃ b, v = .bool b

section Step
variable {key name : String} {s t : Dict Json} {c : Call}

theorem Agree.page_eq (h : Agree key s t) : page key s = page key t := by
  unfold page
  rw [h.1]

theorem lookup?_sync_of_ne (filters : Dict Json) (hpage : pageKey key ≠ name)
    (hfilters : filtersKey key ≠ name) :
    (sync filters key s).lookup? name = s.lookup? name := by
  unfold sync
  dsimp only
  split_ifs
  · rfl
  · rw [Dict.lookup?_put, if_neg hpage, Dict.lookup?_put, if_neg hfilters]

theorem agree_sync (filters : Dict Json) (h : Agree key s t) :
    Agree key (sync filters key s) (sync filters key t) := by
  have hne := pageKey_ne_filtersKey key key
  unfold sync
  rw [h.2]
  dsimp only
  split_ifs
  · exact h
  · constructor
    · simp only [Dict.lookup?_put, if_true]
    · simp only [Dict.lookup?_put, hne, if_false, if_true]

theorem agree_put_page (n : Int) (h : Agree key s t) :
    Agree key (s.put (pageKey key) (.int n)) (t.put (pageKey key) (.int n)) := by
  have hne := pageKey_ne_filtersKey key key
  constructor
  · simp only [Dict.lookup?_put, if_true]
  · simp only [Dict.lookup?_put, hne, if_false]
    exact h.2

/-- A call leaves all entries but the two of its list. -/
theorem lookup?_run_of_ne (hpage : pageKey c.key ≠ name) (hfilters : filtersKey c.key ≠ name) :
    (c.run s).2.lookup? name = s.lookup? name := by
  obtain ⟨key, action⟩ := c
  cases action with
  | sync filters => exact lookup?_sync_of_ne filters hpage hfilters
  | clamp total size =>
    unfold Call.run clamp
    dsimp only
    cases (page key s).above? (pageCount total size) with
    | none => rfl
    | some above =>
      cases above with
      | false => rfl
      | true =>
        dsimp only
        rw [Dict.lookup?_put, if_neg hpage]

/-- The entries of its list decide what a call gives back and what it leaves of the list. -/
theorem agree_run (h : Agree c.key s t) :
    (c.run s).1 = (c.run t).1 ∧ Agree c.key (c.run s).2 (c.run t).2 := by
  obtain ⟨key, action⟩ := c
  cases action with
  | sync filters =>
    have hsync := agree_sync filters h
    exact ⟨congrArg Except.ok hsync.page_eq, hsync⟩
  | clamp total size =>
    have hpage : page key s = page key t := h.page_eq
    unfold Call.run clamp
    dsimp only
    rw [hpage]
    cases (page key t).above? (pageCount total size) with
    | none => exact ⟨rfl, h⟩
    | some above =>
      cases above with
      | false => exact ⟨rfl, h⟩
      | true => exact ⟨rfl, agree_put_page _ h⟩

theorem Agree.run_of_ne (h : Agree key s t) (hc : c.key ≠ key) : Agree key (c.run s).2 t := by
  have hpage : pageKey c.key ≠ pageKey key := mt pageKey_inj.mp hc
  have hfilters : filtersKey c.key ≠ filtersKey key := mt filtersKey_inj.mp hc
  constructor
  · rw [lookup?_run_of_ne hpage (pageKey_ne_filtersKey key c.key).symm]
    exact h.1
  · rw [lookup?_run_of_ne (pageKey_ne_filtersKey c.key key) hfilters]
    exact h.2

/-- A list that counts is given an answer, and goes on counting. -/
theorem counts_run (h : Counts c.key s) :
    (∃ v, (c.run s).1 = .ok v ∧ c.action.Answers v) ∧ Counts c.key (c.run s).2 := by
  obtain ⟨key, action⟩ := c
  obtain ⟨n, hn⟩ := h
  cases action with
  | sync filters =>
    have hpage : Counts key (sync filters key s) := by
      unfold sync
      dsimp only
      split_ifs
      · exact ⟨n, hn⟩
      · refine ⟨1, ?_⟩
        unfold page
        rw [Dict.lookup?_put, if_pos rfl]
        rfl
    obtain ⟨m, hm⟩ := hpage
    exact ⟨⟨.int m, congrArg Except.ok hm, m, rfl⟩, m, hm⟩
  | clamp total size =>
    have habove : (page key s).above? (pageCount total size) =
        some (decide (pageCount total size < n)) := by
      rw [hn]
      rfl
    unfold Call.run clamp
    dsimp only
    rw [habove]
    cases decide (pageCount total size < n) with
    | false => exact ⟨⟨.bool false, rfl, false, rfl⟩, n, hn⟩
    | true =>
      refine ⟨⟨.bool true, rfl, true, rfl⟩, pageCount total size, ?_⟩
      unfold page
      dsimp only
      rw [Dict.lookup?_put, if_pos rfl]
      rfl

theorem Counts.run (h : Counts key s) (c : Call) : Counts key (c.run s).2 := by
  by_cases hc : c.key = key
  · subst hc
    exact (counts_run h).2
  · obtain ⟨n, hn⟩ := h
    have hagree : Agree key (c.run s).2 s := Agree.run_of_ne ⟨rfl, rfl⟩ hc
    exact ⟨n, hagree.page_eq.trans hn⟩

end Step

section Run
variable {key name : String} {s t : Dict Json}

/-- The calls on the list with a key. -/
def callsOn (key : String) (calls : List Call) : List Call := calls.filter (·.key == key)

/-- What the calls on the list with a key give back. -/
def resultsOn (key : String) (results : List (Call × Except Fault Json)) :
    List (Call × Except Fault Json) := results.filter (·.1.key == key)

theorem runAll_callsOn (calls : List Call) (h : Agree key s t) :
    resultsOn key (runAll calls s).1 = (runAll (callsOn key calls) t).1 ∧
      Agree key (runAll calls s).2 (runAll (callsOn key calls) t).2 := by
  induction calls generalizing s t with
  | nil => exact ⟨rfl, h⟩
  | cons c calls ih =>
    by_cases hc : c.key = key
    · subst hc
      obtain ⟨hresult, hnext⟩ := agree_run h
      obtain ⟨hresults, hlast⟩ := ih hnext
      have hon : callsOn c.key (c :: calls) = c :: callsOn c.key calls := by simp [callsOn]
      rw [hon]
      constructor
      · have hhead : resultsOn c.key (runAll (c :: calls) s).1 =
            (c, (c.run s).1) :: resultsOn c.key (runAll calls (c.run s).2).1 := by
          simp [resultsOn, runAll]
        rw [hhead, hresults, hresult]
        rfl
      · exact hlast
    · obtain ⟨hresults, hlast⟩ := ih (h.run_of_ne hc)
      have hon : callsOn key (c :: calls) = callsOn key calls := by simp [callsOn, hc]
      rw [hon]
      constructor
      · rw [← hresults]
        simp [resultsOn, runAll, hc]
      · exact hlast

theorem lookup?_runAll_of_ne {calls : List Call}
    (h : ∀ c ∈ calls, pageKey c.key ≠ name ∧ filtersKey c.key ≠ name) :
    (runAll calls s).2.lookup? name = s.lookup? name := by
  induction calls generalizing s with
  | nil => rfl
  | cons c calls ih =>
    obtain ⟨hpage, hfilters⟩ := h c List.mem_cons_self
    have hlast := ih (s := (c.run s).2) fun c hc => h c (List.mem_cons_of_mem _ hc)
    exact hlast.trans (lookup?_run_of_ne hpage hfilters)

theorem answers_runAll {calls : List Call} (h : ∀ c ∈ calls, Counts c.key s) :
    ∀ r ∈ (runAll calls s).1, ∃ v, r.2 = .ok v ∧ r.1.action.Answers v := by
  induction calls generalizing s with
  | nil => exact fun r hr => absurd hr List.not_mem_nil
  | cons c calls ih =>
    have hnext : ∀ d ∈ calls, Counts d.key (c.run s).2 :=
      fun d hd => (h d (List.mem_cons_of_mem _ hd)).run c
    intro r hr
    rcases List.mem_cons.mp hr with rfl | hr
    · exact (counts_run (h c List.mem_cons_self)).1
    · exact ih hnext r hr

end Run

/-- However calls on several lists are mixed, each list is as if it were alone: leaving out the
calls with other keys changes neither what its calls give back nor its page and filters at the end.
No other entry of the state is touched, and if the pages are whole numbers every call answers. -/
theorem lists_independent (calls : List Call) (state : Dict Json) :
    (∀ key, resultsOn key (runAll calls state).1 = (runAll (callsOn key calls) state).1 ∧
        Agree key (runAll calls state).2 (runAll (callsOn key calls) state).2) ∧
      (∀ name, (∀ c ∈ calls, pageKey c.key ≠ name ∧ filtersKey c.key ≠ name) →
        (runAll calls state).2.lookup? name = state.lookup? name) ∧
      ((∀ c ∈ calls, Counts c.key state) →
        ∀ r ∈ (runAll calls state).1, ∃ v, r.2 = .ok v ∧ r.1.action.Answers v) :=
  ⟨fun _ => runAll_callsOn calls ⟨rfl, rfl⟩, fun _ => lookup?_runAll_of_ne, answers_runAll⟩

/-- Calls on two lists, one of which has for a key what the other calls its page. -/
def nestedCalls : List Call :=
  [⟨"a", .sync [("q", .str "x")]⟩, ⟨"a_page", .sync []⟩, ⟨"a", .clamp 30 10⟩,
    ⟨"a_page", .clamp 0 10⟩]

def nestedState : Dict Json :=
  [("a_page", .int 7), ("a_filters", .obj [("q", .str "x")]), ("theme", .str "dark")]

theorem counts_nested : ∀ c ∈ nestedCalls, Counts c.key nestedState := by
  intro c hc
  simp only [nestedCalls, List.mem_cons, List.not_mem_nil, or_false] at hc
  rcases hc with rfl | rfl | rfl | rfl
  · exact ⟨7, rfl⟩
  · exact ⟨1, rfl⟩
  · exact ⟨7, rfl⟩
  · exact ⟨1, rfl⟩

theorem nested_lists_independent :
    resultsOn "a" (runAll nestedCalls nestedState).1 =
        (runAll (callsOn "a" nestedCalls) nestedState).1 ∧
      (runAll nestedCalls nestedState).2.lookup? "theme" = some (.str "dark") ∧
      ∀ r ∈ (runAll nestedCalls nestedState).1, ∃ v, r.2 = .ok v ∧ r.1.action.Answers v := by
  obtain ⟨halone, hframe, hanswers⟩ := lists_independent nestedCalls nestedState
  refine ⟨(halone "a").1, ?_, hanswers counts_nested⟩
  have htheme := hframe "theme" (by decide)
  rw [htheme]
  rfl

end ChatAudit.Pager
