import ChatAudit.Proofs.Json.Readable
import ChatAudit.Proofs.Payload.Again
import ChatAudit.Proofs.Payload.Wire

/-! All that a caller says in a request: the fields, and the entries that no field goes by. -/
namespace ChatAudit.Payload
open Record

variable {form : Form} {d : Dict Json} {p : Payload} {v : Json} {t : Turn} {value : Value}

/-- Whether a field goes by the key. Its other key counts only where the first is missing. -/
def Form.Claims (form : Form) (d : Dict Json) (key : String) : Prop :=
  ∃ f ∈ form.fields, f.key = key ∨ f.alternative = some key ∧ ¬d.has f.key

instance (form : Form) (d : Dict Json) : DecidablePred (form.Claims d) :=
  fun key => inferInstanceAs (Decidable (∃ f ∈ form.fields, f.key = key ∨ _))

/-- The entries of the caller's own that say something, as they were given. -/
def unknown (form : Form) (d : Dict Json) : Dict Json :=
  List.filter (fun e => !e.2.isNull && !decide (form.Claims d e.1)) d

/-- What a request record is sent as: each field with a value in the order of the form, then each
unknown entry in the order of the caller. Numbers that are not finite are null. -/
def sent (form : Form) (d : Dict Json) (p : Payload) : Dict Json :=
  sentFields p.fields ++ (unknown form d).map fun e => (e.1, sendable e.2)

section Unknown

theorem mem_unknown {e : String × Json} :
    e ∈ unknown form d ↔ e ∈ d ∧ e.2 ≠ .null ∧ ¬form.Claims d e.1 := by
  unfold unknown
  rw [List.mem_filter, Bool.and_eq_true, Bool.not_eq_true', Bool.not_eq_true',
    decide_eq_false_iff_not, ← Bool.not_eq_true, Json.isNull_iff]

theorem unknown_sublist (form : Form) (d : Dict Json) : (unknown form d).Sublist d :=
  List.filter_sublist

/-- An entry is taken exactly if a field goes by its key. -/
theorem taken_iff_claims {e : String × Json} (he : e ∈ d) :
    (form.fields.filterMap fun f => f.keyIn? d).contains e.1 ↔ form.Claims d e.1 := by
  have hhas : d.has e.1 := Dict.has_iff.mpr (Dict.mem_keys he)
  rw [taken_iff]
  unfold Form.Claims
  refine exists_congr fun f => and_congr_right fun _ => ?_
  rw [keyIn?_eq_some, and_iff_right hhas, and_comm (a := f.alternative = some e.1), eq_comm]

theorem given_extrasOf (form : Form) (d : Dict Json) :
    given (extrasOf form.fields d) = unknown form d := by
  unfold given extrasOf unknown
  rw [List.filter_filter]
  refine List.filter_congr fun e he => ?_
  have htaken : (form.fields.filterMap fun f => f.keyIn? d).contains e.1 =
      decide (form.Claims d e.1) := by
    rw [Bool.eq_iff_iff, taken_iff_claims he, decide_eq_true_iff]
  exact congrArg (fun b => !e.2.isNull && !b) htaken

theorem wire_of_read (h : read form d = .accepted p) : p.wire = p.sent form d := by
  obtain ⟨-, -, hextras⟩ := read_eq_accepted.mp h
  rw [wire_eq, sentExtras_eq, hextras, given_extrasOf]
  rfl

end Unknown

section Sendable

mutual

/-- Finite numbers are sent as they are, and so is everything else. -/
theorem sendable_of_isFinite : (v : Json) → v.isFinite → sendable v = v
  | .null, _ | .bool _, _ | .int _, _ | .str _, _ => rfl
  | .float (.finite ..), _ => rfl
  | .arr vs, h => congrArg Json.arr (sendableItems_of_finite vs h)
  | .obj es, h => congrArg Json.obj (sendableEntries_of_finite es h)

theorem sendableItems_of_finite :
    (vs : List Json) → Json.finiteItems vs → sendableItems vs = vs
  | [], _ => rfl
  | v :: vs, h => by
    obtain ⟨hv, hvs⟩ := Bool.and_eq_true_iff.mp h
    exact congrArg₂ List.cons (sendable_of_isFinite v hv) (sendableItems_of_finite vs hvs)

theorem sendableEntries_of_finite :
    (es : List (String × Json)) → Json.finiteEntries es → sendableEntries es = es
  | [], _ => rfl
  | (k, v) :: es, h => by
    obtain ⟨hv, hes⟩ := Bool.and_eq_true_iff.mp h
    exact congrArg₂ (fun v es => (k, v) :: es) (sendable_of_isFinite v hv)
      (sendableEntries_of_finite es hes)

end

mutual

theorem isFinite_of_floatless : (v : Json) → v.Floatless → v.isFinite
  | .null, _ | .bool _, _ | .int _, _ | .str _, _ => rfl
  | .float x, h => absurd .self (h x)
  | .arr vs, h => finiteItems_of_floatless vs (Json.floatless_arr_iff.mp h)
  | .obj es, h => finiteEntries_of_floatless es (Json.floatless_obj_iff.mp h)

theorem finiteItems_of_floatless :
    (vs : List Json) → (∀ v ∈ vs, v.Floatless) → Json.finiteItems vs
  | [], _ => rfl
  | v :: vs, h => by
    obtain ⟨hv, hvs⟩ := List.forall_mem_cons.mp h
    exact Bool.and_eq_true_iff.mpr ⟨isFinite_of_floatless v hv, finiteItems_of_floatless vs hvs⟩

theorem finiteEntries_of_floatless :
    (es : List (String × Json)) → (∀ e ∈ es, e.2.Floatless) → Json.finiteEntries es
  | [], _ => rfl
  | (_, v) :: es, h => by
    obtain ⟨hv, hes⟩ := List.forall_mem_cons.mp h
    exact Bool.and_eq_true_iff.mpr ⟨isFinite_of_floatless v hv, finiteEntries_of_floatless es hes⟩

end

theorem map_sendable_of_finite (h : ∀ e ∈ d, e.2.isFinite) :
    d.map (fun e => (e.1, sendable e.2)) = d := by
  have hsame : ∀ e ∈ d, (e.1, sendable e.2) = id e := by
    intro e he
    rw [sendable_of_isFinite e.2 (h e he)]
    rfl
  rw [List.map_congr_left hsame, List.map_id]

theorem sent_of_finite (h : ∀ e ∈ unknown form d, e.2.isFinite) :
    p.sent form d = sentFields p.fields ++ unknown form d := by
  unfold sent
  rw [map_sendable_of_finite h]

end Sendable

section Whole

/-- A turn with all that it says. -/
def wholeTurn (t : Turn) : Dict Json :=
  [("role", .str t.role), ("content", .str t.content)] ++ given t.extras

/-- A value with all that it says. -/
def Value.whole : Value → Json
  | .turns ts => .arr (ts.map fun t => .obj (wholeTurn t))
  | v => v.wire

/-- The fields that have a value, in the order of the form. -/
def wholeFields (values : List (Field × Option Value)) : Dict Json :=
  values.filterMap fun (f, v) => v.map fun v => (f.key, v.whole)

/-- All that a request says. -/
def whole (form : Form) (d : Dict Json) (p : Payload) : Dict Json :=
  wholeFields p.fields ++ unknown form d

/-- What a caller added to the turns of a value. -/
def Value.added : Value → List Json
  | .turns ts => ts.flatMap fun t => t.extras.map Prod.snd
  | _ => []

/-- The values that a caller added to a request or to its turns. -/
def added (p : Payload) : List Json :=
  p.extras.map Prod.snd ++ (p.fields.filterMap Prod.snd).flatMap Value.added

theorem mem_added_of_extras {e : String × Json} (h : e ∈ p.extras) : e.2 ∈ p.added :=
  List.mem_append_left _ (List.mem_map_of_mem h)

theorem mem_added_of_value {f : Field} (hvalue : (f, some value) ∈ p.fields)
    (hv : v ∈ value.added) : v ∈ p.added := by
  apply List.mem_append_right
  rw [List.mem_flatMap]
  exact ⟨value, List.mem_filterMap.mpr ⟨_, hvalue, rfl⟩, hv⟩

/-- A turn whose extras hold no double is sent with all that it says. -/
theorem turn_wire_eq_whole (h : ∀ e ∈ t.extras, e.2.Floatless) : t.wire = wholeTurn t := by
  have hfinite : ∀ e ∈ given t.extras, e.2.isFinite := by
    intro e he
    exact isFinite_of_floatless e.2 (h e (mem_given.mp he).1)
  unfold Turn.wire wholeTurn
  rw [sentExtras_eq, map_sendable_of_finite hfinite]

theorem value_wire_eq_whole (h : ∀ v ∈ value.added, v.Floatless) : value.wire = value.whole := by
  cases value with
  | turns ts =>
    have hturn : ∀ t ∈ ts, Json.obj t.wire = .obj (wholeTurn t) := by
      intro t ht
      rw [turn_wire_eq_whole]
      intro e he
      apply h
      exact List.mem_flatMap.mpr ⟨t, ht, List.mem_map_of_mem he⟩
    exact congrArg Json.arr (List.map_congr_left hturn)
  | _ => rfl

theorem sentFields_eq_whole {values : List (Field × Option Value)}
    (h : ∀ f value, (f, some value) ∈ values → value.wire = value.whole) :
    sentFields values = wholeFields values := by
  unfold sentFields wholeFields
  apply List.filterMap_congr
  rintro ⟨f, value⟩ hmem
  cases value with
  | none => rfl
  | some value => exact congrArg (fun y => some (f.key, y)) (h f value hmem)

/-- Where the caller added no double, all that a request says is sent, and nothing else. -/
theorem wire_eq_whole (h : read form d = .accepted p) (hfloat : ∀ v ∈ p.added, v.Floatless) :
    p.wire = whole form d p := by
  obtain ⟨-, -, hextras⟩ := read_eq_accepted.mp h
  have hfields : sentFields p.fields = wholeFields p.fields := by
    apply sentFields_eq_whole
    intro f value hvalue
    apply value_wire_eq_whole
    intro v hv
    exact hfloat v (mem_added_of_value hvalue hv)
  have hunknown : ∀ e ∈ unknown form d, e.2.isFinite := by
    intro e he
    rw [← given_extrasOf, mem_given, ← hextras] at he
    exact isFinite_of_floatless e.2 (hfloat e.2 (mem_added_of_extras he.1))
  rw [wire_of_read h, sent_of_finite hunknown, hfields]
  rfl

end Whole

section Floatless

theorem floatless_value (h : ∀ v ∈ value.added, v.Floatless) : value.whole.Floatless := by
  cases value with
  | integer n => nofun
  | text s => nofun
  | truth b => nofun
  | instant t => nofun
  | texts ss =>
    change Json.Floatless (.arr (ss.map .str))
    rw [Json.floatless_arr_iff, List.forall_mem_map]
    nofun
  | turns ts =>
    change Json.Floatless (.arr (ts.map fun t => .obj (wholeTurn t)))
    rw [Json.floatless_arr_iff, List.forall_mem_map]
    intro t ht
    rw [Json.floatless_obj_iff]
    intro e he
    rcases List.mem_append.mp he with he | he
    · simp only [List.mem_cons, List.not_mem_nil, or_false] at he
      rcases he with rfl | rfl <;> nofun
    · apply h
      exact List.mem_flatMap.mpr ⟨t, ht, List.mem_map_of_mem (mem_given.mp he).1⟩

theorem floatless_whole (h : read form d = .accepted p) (hfloat : ∀ v ∈ p.added, v.Floatless) :
    Json.Floatless (.obj (whole form d p)) := by
  obtain ⟨-, -, hextras⟩ := read_eq_accepted.mp h
  rw [Json.floatless_obj_iff]
  intro e he
  rcases List.mem_append.mp he with he | he
  · obtain ⟨⟨f, value⟩, hmem, hv⟩ := List.mem_filterMap.mp he
    obtain ⟨value, rfl, rfl⟩ := Option.map_eq_some_iff.mp hv
    apply floatless_value
    intro v hv
    exact hfloat v (mem_added_of_value hmem hv)
  · rw [← given_extrasOf, mem_given, ← hextras] at he
    exact hfloat e.2 (mem_added_of_extras he.1)

end Floatless

section Readable

variable {n : Int}

theorem lt_of_mapM_asciiDigit? {cs : List Char} {ds : List Nat}
    (h : cs.mapM Text.asciiDigit? = some ds) : ∀ k ∈ ds, k < 10 := by
  induction cs generalizing ds with
  | nil =>
    obtain rfl := Option.some.inj h
    nofun
  | cons c cs ih =>
    rw [List.mapM_cons] at h
    obtain ⟨k, hk, h⟩ := Option.bind_eq_some_iff.mp h
    obtain ⟨ks, hks, h⟩ := Option.bind_eq_some_iff.mp h
    obtain rfl := Option.some.inj h
    exact List.forall_mem_cons.mpr ⟨Json.lt_of_asciiDigit? hk, ih hks⟩

theorem lt_of_integerDigits? {cs : List Char} {ds : List Nat} (h : integerDigits? cs = some ds) :
    ∀ k ∈ ds, k < 10 := by
  have hjoin {cs : List Char}
      (h : (withoutUnderscores? (withoutZeroFraction cs) >>= List.mapM Text.asciiDigit?) = some ds) :
      ∀ k ∈ ds, k < 10 := by
    obtain ⟨body, -, h⟩ := Option.bind_eq_some_iff.mp h
    exact lt_of_mapM_asciiDigit? h
  unfold integerDigits? at h
  dsimp only at h
  split at h
  · obtain ⟨_, -, h⟩ := Option.bind_eq_some_iff.mp h
    exact hjoin h
  · split_ifs at h
    · exact hjoin h
    · cases h
  · cases h

theorem readable_of_integerText {s : String} (h : integerText s = .accepted n) :
    Json.Readable (.int n) := by
  unfold integerText at h
  split at h
  · cases h
  · split at h
    · cases h
    · next ds hds =>
      by_cases hlong : Text.maxDigits < ds.length
      · rw [if_pos hlong] at h
        cases h
      · rw [if_neg hlong] at h
        obtain rfl := Checked.accepted.inj h
        have hlength :=
          Json.length_toDigits_ofDigits (lt_of_integerDigits? hds) (not_lt.mp hlong)
        rw [Json.readable_int_iff]
        split_ifs <;> simpa using hlength

theorem readable_of_integer (h : integer v = .accepted n) (hv : v.Readable) :
    Json.Readable (.int n) := by
  have hshort (hn : n.natAbs < 10 ^ 20) : Json.Readable (.int n) := by
    have hlength := (Nat.length_toDigits_le_iff (by decide) (by decide)).mpr hn
    exact Json.readable_int_iff.mpr (hlength.trans (by decide))
  unfold integer at h
  split at h
  · obtain rfl := Checked.accepted.inj h
    apply hshort
    split_ifs <;> decide
  · obtain rfl := Checked.accepted.inj h
    exact hv
  · split at h
    · split_ifs at h with hfits
      · obtain rfl := Checked.accepted.inj h
        apply hshort
        have hword : wordLimit = 2 ^ 63 := rfl
        simp only [fitsWord, hword, Bool.and_eq_true, decide_eq_true_eq] at hfits
        omega
      · cases h
    · cases h
    · cases h
  · exact readable_of_integerText h
  · cases h

theorem extras_of_read {raw : Dict Json} (h : Turn.read raw = .accepted t) :
    t.extras.Sublist raw := by
  obtain ⟨_, content, hrole, -, rfl⟩ := Checked.seq_eq_accepted.mp h
  obtain ⟨role, -, rfl⟩ := Checked.map_eq_accepted.mp hrole
  exact List.filter_sublist

/-- A turn with its extras apart can be read as a whole where it could be read before. -/
theorem readable_turn {raw : Dict Json} (h : Turn.read raw = .accepted t)
    (hraw : Json.Readable (.obj raw)) : Json.Readable (.obj (wholeTurn t)) := by
  have hgiven : Json.Readable (.obj (given t.extras)) :=
    hraw.sublist (List.filter_sublist.trans (extras_of_read h))
  obtain ⟨hkeys, hentries⟩ := Json.readable_obj_iff.mp hgiven
  have hapart : ∀ key ∈ (given t.extras).keys, key ∉ Turn.keys := by
    intro key hkey
    obtain ⟨e, he, rfl⟩ := List.mem_map.mp hkey
    exact extras_of_turn h e (mem_given.mp he).1
  rw [Json.readable_obj_iff]
  constructor
  · have hsplit : (wholeTurn t).keys = Turn.keys ++ (given t.extras).keys := Dict.keys_append _ _
    rw [hsplit, List.nodup_append']
    refine ⟨by decide, hkeys, ?_⟩
    intro key hturn hkey
    exact hapart key hkey hturn
  · intro e he
    rcases List.mem_append.mp he with he | he
    · simp only [List.mem_cons, List.not_mem_nil, or_false] at he
      rcases he with rfl | rfl <;> exact Json.readable_str _
    · exact hentries e he

theorem readable_value {kind : Kind} (h : kind.read v = .accepted value) (hv : v.Readable) :
    value.whole.Readable := by
  cases kind with
  | integer =>
    obtain ⟨n, hn, rfl⟩ := Checked.map_eq_accepted.mp h
    exact readable_of_integer hn hv
  | text =>
    obtain ⟨s, -, rfl⟩ := Checked.map_eq_accepted.mp h
    exact Json.readable_str s
  | truth =>
    obtain ⟨b, -, rfl⟩ := Checked.map_eq_accepted.mp h
    exact Json.readable_bool b
  | instant =>
    obtain ⟨t, -, rfl⟩ := Checked.map_eq_accepted.mp h
    exact Json.readable_str t.wire
  | texts =>
    obtain ⟨ss, -, rfl⟩ := Checked.map_eq_accepted.mp h
    change Json.Readable (.arr (ss.map .str))
    rw [Json.readable_arr_iff, List.forall_mem_map]
    intro s _
    exact Json.readable_str s
  | turns =>
    obtain ⟨ts, hts, rfl⟩ := Checked.map_eq_accepted.mp h
    obtain ⟨vs, rfl, hmem⟩ := mem_of_list hts
    change Json.Readable (.arr (ts.map fun t => .obj (wholeTurn t)))
    rw [Json.readable_arr_iff, List.forall_mem_map]
    intro t ht
    obtain ⟨w, hw, hread⟩ := hmem t ht
    unfold record at hread
    split at hread
    · exact readable_turn hread (Json.readable_arr_iff.mp hv _ hw)
    · cases hread

theorem Form.readable_default (form : Form) : ∀ f ∈ form.fields, ∀ value, f.default = some value →
    value.whole.Readable := by
  have htruth : Json.Readable (.bool false) := Json.readable_bool false
  have hturns : Json.Readable (.arr []) := Json.readable_arr_iff.mpr nofun
  cases form <;>
    simp [Form.fields, logRestrictions, int, txt, inst, keyword, Value.whole, Value.wire, htruth,
      hturns]

/-- What is read from entries that a document can hold can be held by one. -/
theorem readable_whole (h : read form d = .accepted p) (hd : Json.Readable (.obj d)) :
    Json.Readable (.obj (whole form d p)) := by
  obtain ⟨hfields, hread, -⟩ := read_eq_accepted.mp h
  obtain ⟨hkeys, hentries⟩ := Json.readable_obj_iff.mp (hd.sublist (unknown_sublist form d))
  obtain ⟨-, hvalues⟩ := Json.readable_obj_iff.mp hd
  have hsub : (wholeFields p.fields).keys.Sublist (form.fields.map (·.key)) := by
    have hall := keys_fields_sublist Value.whole p.fields
    rw [← hfields, List.map_map]
    exact hall
  rw [Json.readable_obj_iff]
  constructor
  · have hsplit : (whole form d p).keys = (wholeFields p.fields).keys ++ (unknown form d).keys :=
      Dict.keys_append _ _
    rw [hsplit, List.nodup_append']
    refine ⟨hsub.nodup form.nodup_keys, hkeys, ?_⟩
    intro key hfield hunknown
    obtain ⟨f, hf, rfl⟩ := List.mem_map.mp (hsub.subset hfield)
    obtain ⟨e, he, hkey⟩ := List.mem_map.mp hunknown
    exact (mem_unknown.mp he).2.2 ⟨f, hf, .inl hkey.symm⟩
  · intro e he
    rcases List.mem_append.mp he with he | he
    · obtain ⟨⟨f, value⟩, hmem, hv⟩ := List.mem_filterMap.mp he
      obtain ⟨value, rfl, rfl⟩ := Option.map_eq_some_iff.mp hv
      rcases read_eq_some (hread _ hmem) with hdefault | ⟨u, hu, hvalue⟩
      · have hf : f ∈ form.fields := by
          rw [← hfields]
          exact List.mem_map_of_mem hmem
        exact form.readable_default f hf value hdefault
      · exact readable_value hvalue (hvalues u hu)
    · exact hentries e he

end Readable

end ChatAudit.Payload
