import ChatAudit.Proofs.Calendar.Window
import ChatAudit.Proofs.Console.Run
import ChatAudit.Proofs.Payload.Fit
import Mathlib.Data.List.Sort

/-! What the sidebar can be set to, and which requests take it. -/
namespace ChatAudit.Console
open Panel

/-- The settings of the sidebar. A range is always chosen. -/
structure Selection where
  range : String
  keyword : String
  platform : String
  model : String
  userId : Option Int
  keyId : Option Int
  range_mem : range ∈ timeRanges
deriving DecidableEq

/-- The ranges that are offered, in seconds. -/
def rangeLengths : List (String × Nat) :=
  [("1h", 3600), ("6h", 21600), ("24h", 86400), ("7d", 604800), ("30d", 2592000)]

theorem length_of_mem : ∀ e ∈ rangeLengths, Window.length e.1 = .ok e.2 := by decide +kernel

theorem mem_rangeLengths : ∀ range ∈ timeRanges, ∃ e ∈ rangeLengths, e.1 = range := by decide

namespace Selection
variable {sel : Selection} {e : String × Json}

def filters (sel : Selection) : Filters :=
  List.filter (fun f => isSet f.2) [("time_range", .str sel.range), ("q", .str sel.keyword),
    ("platform", .str sel.platform), ("model", .str sel.model), ("user_id", ofId sel.userId),
    ("api_key_id", ofId sel.keyId)]

theorem range_ne (sel : Selection) : sel.range ≠ "" :=
  fun h => absurd (h ▸ sel.range_mem) (by decide)

theorem lookup?_range (sel : Selection) :
    sel.filters.lookup? "time_range" = some (.str sel.range) := by
  simp [filters, isSet, sel.range_ne, Dict.lookup?]

/-- Every range that is offered has a length. -/
theorem exists_length (sel : Selection) :
    ∃ seconds, (sel.range, seconds) ∈ rangeLengths ∧ Window.length sel.range = .ok seconds := by
  obtain ⟨⟨range, seconds⟩, hmem, hrange⟩ := mem_rangeLengths sel.range sel.range_mem
  exact ⟨seconds, hrange ▸ hmem, hrange ▸ length_of_mem _ hmem⟩

theorem keys_sublist (sel : Selection) : sel.filters.keys.Sublist
    ["time_range", "q", "platform", "model", "user_id", "api_key_id"] :=
  List.filter_sublist.map Prod.fst

theorem not_mem_keys {key : String}
    (h : key ∉ ["time_range", "q", "platform", "model", "user_id", "api_key_id"]) :
    key ∉ sel.filters.keys :=
  fun hm => h (sel.keys_sublist.subset hm)

/-- Whether the range reaches back before the first moment of the calendar. -/
def TooEarly (sel : Selection) (now : Timestamp) : Prop :=
  ∃ seconds, (sel.range, seconds) ∈ rangeLengths ∧ now.clock < seconds * 1000000

/-- Filters with the range become a body that holds its two ends, unless it reaches back too far. -/
theorem forBody_cases (now : Timestamp) {d : Filters}
    (hrange : d.lookup? "time_range" = some (.str sel.range)) (hkeys : d.keys ⊆ sel.filters.keys) :
    (∃ start, start.offset = now.offset ∧ d.forBody now = .ok (d.between start now)) ∨
      sel.TooEarly now ∧ d.forBody now = .error (.window .beforeFirstYear) := by
  obtain ⟨seconds, hmem, hlength⟩ := sel.exists_length
  have hends {key : String} (h : key ∈ ["start_time", "end_time"]) : key ∉ d.keys := by
    have hnames : ∀ key ∈ ["start_time", "end_time"],
        key ∉ ["time_range", "q", "platform", "model", "user_id", "api_key_id"] := by decide
    exact fun hm => sel.not_mem_keys (hnames key h) (hkeys hm)
  by_cases hle : seconds * 1000000 ≤ now.clock
  · obtain ⟨start, hbounds, hbefore⟩ := Window.bounds_of_le hlength hle
    exact .inl ⟨start, hbefore.2, Filters.forBody_of_bounds hrange sel.range_ne
      (hends (by decide)) (hends (by decide)) hbounds⟩
  · have hlt := Nat.not_le.mp hle
    exact .inr ⟨⟨seconds, hmem, hlt⟩,
      Filters.forBody_of_error hrange sel.range_ne (Window.bounds_of_lt hlength hlt)⟩

theorem ofId_eq {id : Option Int} (h : isSet (ofId id)) : ∃ n, ofId id = .int n := by
  cases id with
  | none => cases h
  | some n => exact ⟨n, rfl⟩

/-- Filters are texts but for the two ids. -/
theorem entry_cases (h : e ∈ sel.filters) :
    (∃ s, e.2 = .str s ∧ e.1 ∈ ["time_range", "q", "platform", "model"]) ∨
      ∃ n, e.2 = .int n ∧ e.1 ∈ ["user_id", "api_key_id"] := by
  obtain ⟨hmem, hset⟩ := List.mem_filter.mp h
  simp only [List.mem_cons, List.not_mem_nil, or_false] at hmem
  rcases hmem with rfl | rfl | rfl | rfl | rfl | rfl
  · exact .inl ⟨_, rfl, by simp⟩
  · exact .inl ⟨_, rfl, by simp⟩
  · exact .inl ⟨_, rfl, by simp⟩
  · exact .inl ⟨_, rfl, by simp⟩
  · obtain ⟨n, hn⟩ := ofId_eq hset
    exact .inr ⟨n, hn, by simp⟩
  · obtain ⟨n, hn⟩ := ofId_eq hset
    exact .inr ⟨n, hn, by simp⟩

/-- An id that is not set is missing. -/
theorem lookup?_setIds (sel : Selection) :
    sel.filters.lookup? "user_id" = sel.userId.map .int ∧
      sel.filters.lookup? "api_key_id" = sel.keyId.map .int := by
  have hset (id : Option Int) : Option.filter isSet (some (ofId id)) = id.map .int := by
    cases id <;> rfl
  unfold filters
  constructor
  · rw [Dict.lookup?_filter (by simp [Dict.keys])]
    exact hset sel.userId
  · rw [Dict.lookup?_filter (by simp [Dict.keys])]
    exact hset sel.keyId

theorem lookup?_ids (sel : Selection) :
    (sel.filters.lookup? "user_id").getD .null = ofId sel.userId ∧
      (sel.filters.lookup? "api_key_id").getD .null = ofId sel.keyId := by
  have hid (id : Option Int) : (id.map Json.int).getD .null = ofId id := by
    cases id <;> rfl
  rw [sel.lookup?_setIds.1, sel.lookup?_setIds.2]
  exact ⟨hid sel.userId, hid sel.keyId⟩

end Selection

section Equality
variable {sel sel' : Selection}

/-- The place that a filter has among all of them. -/
def place (name : String) : Nat :=
  ["time_range", "q", "platform", "model", "user_id", "api_key_id"].idxOf name

/-- Filters come in one order. -/
theorem Selection.pairwise (sel : Selection) :
    sel.filters.Pairwise fun e f => place e.1 < place f.1 := by
  have hnames : ["time_range", "q", "platform", "model", "user_id", "api_key_id"].Pairwise
      fun a b => place a < place b := by decide
  have hkeys : sel.filters.keys.Pairwise fun a b => place a < place b :=
    hnames.sublist sel.keys_sublist
  exact (List.pairwise_map (f := Prod.fst)).mp hkeys

theorem Selection.nodup_keys (sel : Selection) : sel.filters.keys.Nodup :=
  sel.keys_sublist.nodup (by decide)

/-- Values of filters are equal only to themselves. -/
theorem Selection.eq_of_equal {e f : String × Json} (he : e ∈ sel.filters) (hf : f ∈ sel'.filters)
    (h : e.2.equal f.2 = true) : e.2 = f.2 := by
  rcases Selection.entry_cases he with ⟨s, hs, -⟩ | ⟨n, hn, -⟩ <;>
    rcases Selection.entry_cases hf with ⟨s', hs', -⟩ | ⟨n', hn', -⟩
  · rw [hs, hs'] at h ⊢
    simpa [Json.equal] using h
  · rw [hs, hn'] at h
    cases h
  · rw [hn, hs'] at h
    cases h
  · rw [hn, hn'] at h ⊢
    simpa [Json.equal, Json.equalNumbers, Json.toInt?] using h

theorem mem_of_equalEntries {xs ys : Dict Json} (h : Json.equalEntries xs ys = true) :
    ∀ e ∈ xs, ∃ v, ys.lookup? e.1 = some v ∧ e.2.equal v = true := by
  induction xs with
  | nil => exact nofun
  | cons x xs ih =>
    obtain ⟨key, v⟩ := x
    rw [Json.equalEntries, Bool.and_eq_true] at h
    refine List.forall_mem_cons.mpr ⟨?_, ih h.2⟩
    cases hlookup : ys.lookup? key with
    | none => simp [hlookup] at h
    | some w => exact ⟨w, rfl, by simpa [hlookup] using h.1⟩

/-- The comparison of filters is equality. -/
theorem equal_filters : Json.equal (.obj sel.filters) (.obj sel'.filters) = true ↔
    sel.filters = sel'.filters := by
  constructor
  · intro h
    obtain ⟨hlength, hentries⟩ : sel.filters.length = sel'.filters.length ∧
        Json.equalEntries sel.filters sel'.filters = true := by
      simpa [Json.equal] using h
    have hsubset : sel.filters ⊆ sel'.filters := by
      intro e he
      obtain ⟨v, hv, heq⟩ := mem_of_equalEntries hentries e he
      have hmem := Dict.mem_of_lookup? hv
      have hvalue : e.2 = v := Selection.eq_of_equal he hmem heq
      rwa [← hvalue] at hmem
    have hperm : sel.filters.Perm sel'.filters :=
      (List.subperm_of_subset (List.Nodup.of_map _ sel.nodup_keys) hsubset).perm_of_length_le
        hlength.ge
    refine hperm.eq_of_pairwise (fun e f _ _ hef hfe => ?_) sel.pairwise sel'.pairwise
    omega
  · intro h
    have hentries : ∀ d : Dict Json, (∀ e ∈ d, e ∈ sel'.filters) →
        Json.equalEntries d sel'.filters = true := by
      intro d hd
      induction d with
      | nil => rfl
      | cons e d ih =>
        obtain ⟨hmem, hd⟩ := List.forall_mem_cons.mp hd
        have hlookup : sel'.filters.lookup? e.1 = some e.2 :=
          (Dict.lookup?_eq_some_iff sel'.nodup_keys).mpr hmem
        have hself : e.2.equal e.2 = true := by
          rcases Selection.entry_cases hmem with ⟨s, hs, -⟩ | ⟨n, hn, -⟩
          · simp [hs, Json.equal]
          · simp [hn, Json.equal, Json.equalNumbers, Json.toInt?]
        rw [Json.equalEntries, hlookup, Bool.and_eq_true]
        exact ⟨hself, ih hd⟩
    rw [h, Json.equal, Bool.and_eq_true]
    exact ⟨beq_self_eq_true _, hentries _ fun _ he => he⟩

end Equality

section Fits
variable {form : Payload.Form} {d : Dict Json} {sel : Selection}

/-- Filters that a form has fields for are sent as they are. -/
theorem fits_of_takes (hd : ∀ e ∈ d, e ∈ sel.filters)
    (htext : ∀ e ∈ d, e.1 ∈ ["time_range", "q", "platform", "model"] → form.Takes .text e.1)
    (hint : ∀ e ∈ d, e.1 ∈ ["user_id", "api_key_id"] → form.Takes .integer e.1) :
    Payload.Fits form d d := by
  refine .refl fun e he => ?_
  rcases Selection.entry_cases (hd e he) with ⟨s, hs, hkey⟩ | ⟨n, hn, hkey⟩
  · obtain ⟨f, hf, hfkey, hkind⟩ := Payload.exists_field (htext e he hkey)
    exact ⟨f, hf, hfkey, hs ▸ Payload.sends_text hkind s⟩
  · obtain ⟨f, hf, hfkey, hkind⟩ := Payload.exists_field (hint e he hkey)
    exact ⟨f, hf, hfkey, hn ▸ Payload.sends_integer hkind n⟩

/-- What is sent for filters between two points in time. -/
def sentBetween (start stop : Timestamp) (filters : Filters) : Dict Json :=
  filters.without "time_range" ++
    [("start_time", .str start.wire), ("end_time", .str stop.wire)]

theorem fits_between {start stop : Timestamp} (hd : ∀ e ∈ d, e ∈ sel.filters)
    (htext : ∀ e ∈ d, e.1 ∈ ["q", "platform", "model"] → form.Takes .text e.1)
    (hint : ∀ key ∈ ["user_id", "api_key_id"], form.Takes .integer key)
    (hends : ∀ key ∈ ["start_time", "end_time"], form.Takes .instant key)
    (hstart : ∀ o ∈ start.offset, Timestamp.Offset o)
    (hstop : ∀ o ∈ stop.offset, Timestamp.Offset o) :
    Payload.Fits form (Filters.between start stop d) (sentBetween start stop d) := by
  have hfilters : Payload.Fits form (d.without "time_range") (d.without "time_range") := by
    refine fits_of_takes (fun e he => hd e (Dict.mem_without.mp he).1) (fun e he hkey => ?_)
      fun e _ => hint e.1
    obtain ⟨hmem, hne⟩ := Dict.mem_without.mp he
    exact htext e hmem ((List.mem_cons.mp hkey).resolve_left hne)
  exact hfilters.append
    (.cons (hends _ (by decide)) (fun _ hf => Payload.sends_instant hf hstart)
      (.cons (hends _ (by decide)) (fun _ hf => Payload.sends_instant hf hstop) .nil))

theorem keys_between {names : List String} {start stop : Timestamp} (h : d.keys.Sublist names) :
    (Filters.between start stop d).keys.Sublist (names ++ ["start_time", "end_time"]) := by
  rw [Filters.between, Dict.keys_append]
  exact ((Dict.keys_without "time_range" d).trans h).append (.refl _)

/-- The entry of an id that is set. -/
def idEntry (key : String) (id : Option Int) : Dict Json :=
  (id.map fun n => (key, Json.int n)).toList

theorem fits_id {key : String} (h : form.Takes .integer key) (hnull : form.Leaves key)
    (id : Option Int) : Payload.Fits form [(key, ofId id)] (idEntry key id) := by
  cases id with
  | none => exact .cons_null hnull .nil
  | some n => exact .cons h (fun _ hf => Payload.sends_integer hf n) .nil

end Fits

section Draws
variable {env : Env}

/-- The id that a text stands for. -/
def idOf (raw : String) : Option Int :=
  if Text.strip raw == "" then none
  else match Text.readInteger (Text.strip raw) with
    | .ok n => if 0 < n then some n else none
    | .error _ => none

/-- The key that the user chose. -/
def Env.chosenKey (env : Env) (widget default : String) (keys : List ApiKey) : Option Int :=
  let choices := keyChoices default keys
  (choices.lookup? (env.chosen widget (choices.map (·.1)) 0)).getD none

theorem draws_readId (raw : String) : Draws env (readId raw) (· = idOf raw) := by
  unfold readId idOf
  by_cases hblank : (Text.strip raw == "") = true
  · simp only [hblank, if_true]
    exact .pure rfl
  · simp only [hblank]
    cases Text.readInteger (Text.strip raw) with
    | ok n => exact .pure rfl
    | error _ => exact (Draws.post _).bind fun _ _ => .pure rfl

theorem draws_chooseKey (target label default : String) (keys : List ApiKey) :
    Draws env (chooseKey target label default keys) (· = env.chosenKey label default keys) :=
  (Draws.selectbox _ _ _ _ _).bind fun _ h => .pure (by rw [h]; rfl)

/-- The choice of the key that pays is remembered. -/
theorem ends_chooseAssistantKey (env : Env) (s : Screen) (keys : List ApiKey) (key : String) :
    ∃ choice, Ends env s (chooseAssistantKey keys key)
      (.ok (env.chosenKey key "Server default" (keys.filter (·.status == "active"))))
      (s.store (·.put key (.str choice))) :=
  ⟨_, .bind (.selectbox _ _ _ _ _ _) (.pure _)⟩

theorem rangeIndex_lt (default : String) : rangeIndex default < timeRanges.length := by
  unfold rangeIndex
  split_ifs with h
  · exact List.idxOf_lt_length_iff.mpr (List.contains_iff_mem.mp h)
  · decide

/-- What the user put into the sidebar. -/
def Env.selection (env : Env) (keys : List ApiKey) (defaultRange : String) : Selection where
  range := env.chosen "Time range" timeRanges (rangeIndex defaultRange)
  keyword := Text.strip (env.typed "Keyword")
  platform := env.chosen "Platform" platforms 0
  model := Text.strip (env.typed "Model")
  userId := idOf (env.typed "User ID")
  keyId := env.chosenKey "API key" "All keys" keys
  range_mem := Env.chosen_mem (rangeIndex_lt defaultRange)

/-- The sidebar always yields the filters of what the user put in. -/
theorem draws_sidebar (keys : List ApiKey) (defaultRange : String) :
    Draws env (sidebar keys defaultRange) (· = (env.selection keys defaultRange).filters) := by
  unfold sidebar
  refine (Draws.post _).bind fun _ _ => ?_
  refine (Draws.selectbox _ _ _ _ _).bind fun range hrange => ?_
  refine (Draws.textInput _ _).bind fun keyword hkeyword => ?_
  refine (Draws.selectbox _ _ _ _ _).bind fun platform hplatform => ?_
  refine (Draws.textInput _ _).bind fun model hmodel => ?_
  refine (Draws.textInput _ _).bind fun raw hraw => ?_
  refine (draws_readId raw).bind fun userId huserId => ?_
  refine (draws_chooseKey _ _ _ _).bind fun keyId hkeyId => .pure ?_
  rw [hrange, hkeyword, hplatform, hmodel, huserId, hraw, hkeyId, Selection.filters]
  simp only [Env.selection]

theorem exec_sidebar (env : Env) (keys : List ApiKey) (defaultRange : String) (s : Screen) :
    ∃ t, exec (sidebar keys defaultRange) env s =
      (.ok (env.selection keys defaultRange).filters, t) := by
  obtain ⟨_, t, hexec, -, rfl⟩ := draws_sidebar keys defaultRange s
  exact ⟨t, hexec⟩

end Draws

end ChatAudit.Console
