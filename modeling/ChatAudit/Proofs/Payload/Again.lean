import ChatAudit.Proofs.Calendar.Offset
import ChatAudit.Proofs.Payload.Reading

/-! What is sent for a request is read as the same request again. -/
namespace ChatAudit.Payload
open Record

variable {v : Json} {x : Dict Json}

section Extras

mutual

theorem sendable_sendable : (v : Json) → sendable (sendable v) = sendable v
  | .null | .bool _ | .int _ | .str _ => rfl
  | .float (.finite ..) => rfl
  | .float .nan | .float (.infinite _) => rfl
  | .arr vs => congrArg Json.arr (sendableItems_sendableItems vs)
  | .obj es => congrArg Json.obj (sendableEntries_sendableEntries es)

theorem sendableItems_sendableItems :
    (vs : List Json) → sendableItems (sendableItems vs) = sendableItems vs
  | [] => rfl
  | v :: vs => congrArg₂ List.cons (sendable_sendable v) (sendableItems_sendableItems vs)

theorem sendableEntries_sendableEntries :
    (es : List (String × Json)) → sendableEntries (sendableEntries es) = sendableEntries es
  | [] => rfl
  | (k, v) :: es =>
    congrArg₂ (fun v es => (k, v) :: es) (sendable_sendable v) (sendableEntries_sendableEntries es)

end

/-- Whether the value is a number that is not finite. It is sent as null. -/
def Lost (v : Json) : Prop := v = .float .nan ∨ ∃ negative, v = .float (.infinite negative)

theorem sendable_eq_null_iff : sendable v = .null ↔ v = .null ∨ Lost v := by
  unfold Lost
  cases v with
  | float x => cases x <;> simp [sendable]
  | _ => simp [sendable]

/-- The extras that are sent are sent again as they are, unless one was lost and became null. -/
theorem sentExtras_sentExtras_eq_iff :
    sentExtras (sentExtras x) = sentExtras x ↔ ∀ e ∈ x, ¬Lost e.2 := by
  have hwhole : given (sentExtras x) = sentExtras x ↔ ∀ e ∈ x, ¬Lost e.2 := by
    rw [given_eq_self_iff, sentExtras_eq, List.forall_mem_map]
    constructor
    · intro h e he hlost
      have hnull : e.2 ≠ .null := by
        intro heq
        rcases hlost with hlost | ⟨_, hlost⟩ <;> cases heq.symm.trans hlost
      exact h e (mem_given.mpr ⟨he, hnull⟩) (sendable_eq_null_iff.mpr (.inr hlost))
    · intro h e he hnull
      obtain ⟨hmem, hne⟩ := mem_given.mp he
      rcases sendable_eq_null_iff.mp hnull with heq | hlost
      · exact hne heq
      · exact h e hmem hlost
  rw [← hwhole, sentExtras_eq (sentExtras x)]
  constructor
  · intro h
    have hlength := congrArg List.length h
    rw [List.length_map] at hlength
    exact List.filter_sublist.eq_of_length hlength
  · intro h
    rw [h, sentExtras_eq, List.map_map]
    refine List.map_congr_left fun e _ => ?_
    exact congrArg (Prod.mk e.1) (sendable_sendable e.2)

end Extras

section Values

/-- The turn that is read from what is sent for a turn. -/
def resentTurn (t : Turn) : Turn := { t with extras := sentExtras t.extras }

/-- The value that is read from what is sent for a value. -/
def Value.resent : Value → Value
  | .turns ts => .turns (ts.map resentTurn)
  | v => v

/-- Whether nothing in a turn was lost. -/
def TurnIntact (t : Turn) : Prop := ∀ e ∈ t.extras, ¬Lost e.2

/-- Whether nothing in a value was lost. -/
def Value.Intact : Value → Prop
  | .turns ts => ∀ t ∈ ts, TurnIntact t
  | _ => True

theorem mem_of_items {α : Type} {read : Reader α} {n : Nat} {vs : List Json} {l : List α}
    (h : items read n vs = .accepted l) : ∀ a ∈ l, ∃ v ∈ vs, read v = .accepted a := by
  induction vs generalizing n l with
  | nil =>
    cases h
    nofun
  | cons v vs ih =>
    unfold items at h
    obtain ⟨_, rest, hv, hrest, rfl⟩ := Checked.seq_eq_accepted.mp h
    obtain ⟨a, ha, rfl⟩ := Checked.map_eq_accepted.mp hv
    intro b hb
    rcases List.mem_cons.mp hb with rfl | hb
    · exact ⟨v, List.mem_cons_self, Checked.below_eq_accepted.mp ha⟩
    · obtain ⟨w, hw, hread⟩ := ih hrest b hb
      exact ⟨w, List.mem_cons_of_mem v hw, hread⟩

theorem mem_of_list {α : Type} {read : Reader α} {l : List α} (h : list read v = .accepted l) :
    ∃ vs, v = .arr vs ∧ ∀ a ∈ l, ∃ w ∈ vs, read w = .accepted a := by
  unfold list at h
  split at h
  · exact ⟨_, rfl, mem_of_items h⟩
  · cases h

theorem extras_of_turn {d : Dict Json} {t : Turn} (h : Turn.read d = .accepted t) :
    ∀ e ∈ t.extras, e.1 ∉ Turn.keys := by
  obtain ⟨_, content, hrole, -, rfl⟩ := Checked.seq_eq_accepted.mp h
  obtain ⟨role, -, rfl⟩ := Checked.map_eq_accepted.mp hrole
  intro e he hkey
  have hfree := (List.mem_filter.mp he).2
  rw [List.contains_iff_mem.mpr hkey] at hfree
  cases hfree

/-- A turn whose extras are apart from its role and its content is read again from what is sent. -/
theorem turn_wire {t : Turn} (h : ∀ e ∈ t.extras, e.1 ∉ Turn.keys) :
    Turn.read t.wire = .accepted (resentTurn t) := by
  have hextras : List.filter (fun e => !Turn.keys.contains e.1) t.wire = sentExtras t.extras := by
    have hkept : ∀ e ∈ sentExtras t.extras, !Turn.keys.contains e.1 := by
      intro e he
      obtain ⟨u, hu, hkey⟩ := List.mem_map.mp (keys_sentExtras_subset _ (List.mem_map_of_mem he))
      rw [Bool.not_eq_true', ← Bool.not_eq_true, List.contains_iff_mem]
      exact hkey ▸ h u hu
    unfold Turn.wire
    rw [List.filter_append, List.filter_eq_self.mpr hkept]
    rfl
  have hread : Turn.read t.wire = .accepted
      ⟨t.role, t.content, List.filter (fun e => !Turn.keys.contains e.1) t.wire⟩ := rfl
  rw [hread, hextras]
  rfl

theorem resentTurn_wire_eq_iff {t : Turn} : (resentTurn t).wire = t.wire ↔ TurnIntact t := by
  unfold Turn.wire resentTurn TurnIntact
  rw [List.append_right_inj, sentExtras_sentExtras_eq_iff]

theorem resent_wire_eq_iff {value : Value} : value.resent.wire = value.wire ↔ value.Intact := by
  cases value with
  | turns ts =>
    change Json.arr ((ts.map resentTurn).map fun t => .obj t.wire) =
      .arr (ts.map fun t => .obj t.wire) ↔ ∀ t ∈ ts, TurnIntact t
    rw [List.map_map, Json.arr.injEq, List.map_inj_left]
    refine forall₂_congr fun t _ => ?_
    rw [Function.comp_apply, Json.obj.injEq, resentTurn_wire_eq_iff]
  | _ => simp [Value.resent, Value.Intact]

theorem wire_ne_null (value : Value) : value.wire ≠ .null := by
  cases value <;> simp [Value.wire]

/-- A value of each kind is sent as what is read as the value again. -/
theorem read_value_wire {kind : Kind} {value : Value} (h : kind.read v = .accepted value) :
    kind.read value.wire = .accepted value.resent := by
  cases kind with
  | integer =>
    obtain ⟨n, -, rfl⟩ := Checked.map_eq_accepted.mp h
    rfl
  | text =>
    obtain ⟨s, -, rfl⟩ := Checked.map_eq_accepted.mp h
    rfl
  | truth =>
    obtain ⟨b, -, rfl⟩ := Checked.map_eq_accepted.mp h
    rfl
  | instant =>
    obtain ⟨t, ht, rfl⟩ := Checked.map_eq_accepted.mp h
    have hread : Kind.read .instant (.str t.wire) = .accepted (.instant t) := by
      rw [Kind.read, instant_wire ht]
      rfl
    exact hread
  | texts =>
    obtain ⟨ss, -, rfl⟩ := Checked.map_eq_accepted.mp h
    have htexts : list text (.arr (ss.map .str)) = .accepted ss :=
      items_map (g := Json.str) (fun _ _ => rfl) 0
    exact congrArg (Checked.map Value.texts) htexts
  | turns =>
    obtain ⟨ts, hts, rfl⟩ := Checked.map_eq_accepted.mp h
    have hturns : list (record Turn.read) (.arr (ts.map fun t => .obj t.wire)) =
        .accepted (ts.map resentTurn) := by
      refine items_map_eq (fun t ht => ?_) 0
      obtain ⟨_, -, hmem⟩ := mem_of_list hts
      obtain ⟨w, -, hw⟩ := hmem t ht
      unfold record at hw
      split at hw
      · exact turn_wire (extras_of_turn hw)
      · cases hw
    exact congrArg (Checked.map Value.turns) hturns

end Values

section Fields

variable {form : Form} {f : Field} {d : Dict Json} {p : Payload} {value : Value} {key : String}

theorem optional_cases {α : Type} {a b : α} {read : Reader α}
    (h : Record.optional key a read d = .accepted b) :
    b = a ∨ ∃ v, d.lookup? key = some v ∧ read v = .accepted b := by
  unfold Record.optional field at h
  cases hlookup : d.lookup? key with
  | none =>
    rw [hlookup] at h
    cases Checked.below_eq_accepted.mp h
    exact .inl rfl
  | some v =>
    rw [hlookup] at h
    exact .inr ⟨v, rfl, Checked.below_eq_accepted.mp h⟩

theorem orNull_eq_some {α : Type} {a : α} {read : Reader α}
    (h : orNull read v = .accepted (some a)) : read v = .accepted a := by
  cases v with
  | null => cases h
  | _ =>
    obtain ⟨b, hb, heq⟩ := Checked.map_eq_accepted.mp h
    cases heq
    exact hb

/-- A value of a field is its default, or was read as a value of its kind. -/
theorem read_eq_some (h : f.read d = .accepted (some value)) :
    f.default = some value ∨ ∃ e ∈ d, f.kind.read e.2 = .accepted value := by
  unfold Field.read at h
  cases hdefault : f.default with
  | none =>
    rw [hdefault] at h
    rcases optional_cases h with heq | ⟨v, hlookup, hv⟩
    · cases heq
    · exact .inr ⟨_, Dict.mem_of_lookup? hlookup, orNull_eq_some hv⟩
  | some default =>
    rw [hdefault] at h
    obtain ⟨value', hvalue, heq⟩ := Checked.map_eq_accepted.mp h
    cases heq
    rcases optional_cases hvalue with rfl | ⟨v, hlookup, hv⟩
    · exact .inl rfl
    · exact .inr ⟨_, Dict.mem_of_lookup? hlookup, hv⟩

/-- Only a field without a default is left without a value. -/
theorem default_of_read (h : f.read d = .accepted none) : f.default = none := by
  unfold Field.read at h
  cases hdefault : f.default with
  | none => rfl
  | some default =>
    rw [hdefault] at h
    obtain ⟨value, -, heq⟩ := Checked.map_eq_accepted.mp h
    cases heq

/-- A default is sent as what is read as the default again. -/
theorem Form.read_default (form : Form) : ∀ f ∈ form.fields, ∀ value, f.default = some value →
    f.kind.read value.wire = .accepted value.resent := by
  have htruth : Kind.read .truth (.bool false) = .accepted (.truth false) := rfl
  have hturns : Kind.read .turns (.arr []) = .accepted (.turns []) := rfl
  cases form <;>
    simp [Form.fields, logRestrictions, int, txt, inst, keyword, Value.wire, Value.resent, htruth,
      hturns]

/-- What is read as a request: what is sent for each value is read as a value again, and no extra is
under a key of a field. -/
structure Sound (form : Form) (p : Payload) : Prop where
  fields : p.fields.map Prod.fst = form.fields
  sent : ∀ f value, (f, some value) ∈ p.fields →
    f.kind.read value.wire = .accepted value.resent
  unset : ∀ f, (f, none) ∈ p.fields → f.default = none
  apart : ∀ f ∈ form.fields, ∀ key ∈ p.extras.keys, key ≠ f.key ∧ f.alternative ≠ some key

theorem sound_of_read (h : read form d = .accepted p) (hone : ¬(d.has "q" ∧ d.has "query")) :
    Sound form p := by
  obtain ⟨hfields, hread, hextras⟩ := read_eq_accepted.mp h
  have hmem : ∀ u ∈ p.fields, u.1 ∈ form.fields := fun u hu => hfields ▸ List.mem_map_of_mem hu
  constructor
  · exact hfields
  · intro f value hvalue
    rcases read_eq_some (hread _ hvalue) with hdefault | ⟨_, -, hv⟩
    · exact form.read_default f (hmem _ hvalue) value hdefault
    · exact read_value_wire hv
  · intro f hnone
    exact default_of_read (hread _ hnone)
  · intro f hf key hkey
    obtain ⟨⟨_, v⟩, he, rfl⟩ := List.mem_map.mp hkey
    rw [hextras] at he
    obtain ⟨hd, hfree⟩ := mem_extrasOf.mp he
    have hhas := Dict.has_iff.mpr (Dict.mem_keys hd)
    constructor
    · rintro rfl
      exact hfree f hf (keyIn?_of_has hhas)
    · intro halternative
      -- under the full name of the keyword an entry is left only beside its short name
      obtain ⟨hq, hquery⟩ := form.keyword_of_alternative f hf (halternative ▸ rfl)
      by_cases hfirst : d.has f.key
      · have heq : "query" = _ := Option.some.inj (hquery.symm.trans halternative)
        exact hone ⟨hq ▸ hfirst, heq ▸ hhas⟩
      · exact hfree f hf (keyIn?_eq_some.mpr ⟨hhas, .inr ⟨hfirst, halternative⟩⟩)

/-- Whatever is put in the place of values, their keys are keys of fields in the same order. -/
theorem keys_fields_sublist (put : Value → Json) (values : List (Field × Option Value)) :
    Dict.keys (values.filterMap fun (f, v) => v.map fun v => (f.key, put v)) |>.Sublist
      (values.map fun u => u.1.key) := by
  induction values with
  | nil => exact .slnil
  | cons u values ih =>
    obtain ⟨f, value⟩ := u
    cases value with
    | none => exact ih.cons _
    | some value => exact ih.cons_cons _

theorem keys_sentFields_sublist (values : List (Field × Option Value)) :
    (sentFields values).keys.Sublist (values.map fun u => u.1.key) :=
  keys_fields_sublist Value.wire values

/-- The request that is read from what is sent for a request. -/
def resent (p : Payload) : Payload :=
  ⟨p.fields.map fun u => (u.1, u.2.map Value.resent), sentExtras p.extras⟩

/-- Whether nothing in a request was lost. -/
def Intact (p : Payload) : Prop :=
  (∀ f value, (f, some value) ∈ p.fields → value.Intact) ∧ ∀ e ∈ p.extras, ¬Lost e.2

namespace Sound

theorem mem_fields (h : Sound form p) {u : Field × Option Value} (hu : u ∈ p.fields) :
    u.1 ∈ form.fields :=
  h.fields ▸ List.mem_map_of_mem hu

theorem lookup?_wire (h : Sound form p) (hvalue : (f, some value) ∈ p.fields) :
    p.wire.lookup? f.key = some value.wire := by
  have hextra : f.key ∉ (sentExtras p.extras).keys := fun hkey =>
    (h.apart f (h.mem_fields hvalue) f.key (keys_sentExtras_subset _ hkey)).1 rfl
  have hnodup : (sentFields p.fields).keys.Nodup := by
    have hkeys : (p.fields.map fun u => u.1.key) = form.fields.map fun f => f.key := by
      rw [← h.fields, List.map_map]
      rfl
    exact (keys_sentFields_sublist p.fields).nodup (hkeys ▸ form.nodup_keys)
  rw [wire_eq, Dict.lookup?_append hextra, Dict.lookup?_eq_some_iff hnodup, mem_sentFields]
  exact ⟨f, value, hvalue, rfl, rfl⟩

theorem keyIn?_wire_eq_none (h : Sound form p) (hnone : (f, none) ∈ p.fields) :
    f.keyIn? p.wire = none := by
  have hf := h.mem_fields hnone
  rw [Option.eq_none_iff_forall_ne_some]
  intro key hfound
  obtain ⟨hhas, hkey⟩ := keyIn?_eq_some.mp hfound
  rw [Dict.has_iff, wire_eq, Dict.keys_append, List.mem_append] at hhas
  rcases hhas with hfield | hextra
  · obtain ⟨⟨_, y⟩, hy, rfl⟩ := List.mem_map.mp hfield
    obtain ⟨g, value, hvalue, hgkey, -⟩ := mem_sentFields.mp hy
    have hg := h.mem_fields hvalue
    -- the entry is sent for `g`: that is not `f`, which has no value, nor under its other key
    rcases hkey with heq | ⟨-, halternative⟩
    · have hnodup : (p.fields.map Prod.fst).Nodup := h.fields ▸ List.Nodup.of_map _ form.nodup_keys
      have hsame : g = f := Fits.eq_of_key hg hf (hgkey.trans heq)
      have hpair := List.inj_on_of_nodup_map hnodup hvalue hnone hsame
      cases (Prod.mk.inj hpair).2
    · exact form.alternative_ne_key f hf g hg (halternative.trans (congrArg some hgkey.symm))
  · obtain ⟨hfirst, hother⟩ := h.apart f hf key (keys_sentExtras_subset _ hextra)
    rcases hkey with heq | ⟨-, halternative⟩
    · exact hfirst heq
    · exact hother halternative

theorem read_field (h : Sound form p) {u : Field × Option Value} (hu : u ∈ p.fields) :
    u.1.read p.wire = .accepted (u.2.map Value.resent) := by
  obtain ⟨f, value⟩ := u
  cases value with
  | none =>
    dsimp only
    rw [read_of_absent (h.keyIn?_wire_eq_none hu), h.unset f hu]
    rfl
  | some value =>
    exact read_of_present (h.lookup?_wire hu) (wire_ne_null value) (h.sent f value hu)

theorem extrasOf_wire (h : Sound form p) :
    extrasOf form.fields p.wire = sentExtras p.extras := by
  unfold extrasOf
  rw [wire_eq, List.filter_append, ← wire_eq]
  have hfields : ∀ e ∈ sentFields p.fields,
      ¬(!(form.fields.filterMap fun f => f.keyIn? p.wire).contains e.1) = true := by
    rintro ⟨_, y⟩ hy
    obtain ⟨f, value, hvalue, rfl, -⟩ := mem_sentFields.mp hy
    have hhas : p.wire.has f.key := Dict.has_of_lookup? (h.lookup?_wire hvalue)
    rw [taken_iff.mpr ⟨f, h.mem_fields hvalue, keyIn?_of_has hhas⟩]
    decide
  have hextras : ∀ e ∈ sentExtras p.extras,
      (!(form.fields.filterMap fun f => f.keyIn? p.wire).contains e.1) = true := by
    intro e he
    rw [Bool.not_eq_true', ← Bool.not_eq_true, taken_iff]
    rintro ⟨f, hf, hkey⟩
    obtain ⟨hfirst, hother⟩ := h.apart f hf e.1 (keys_sentExtras_subset _ (List.mem_map_of_mem he))
    rcases (keyIn?_eq_some.mp hkey).2 with heq | ⟨-, halternative⟩
    · exact hfirst heq
    · exact hother halternative
  rw [List.filter_eq_nil_iff.mpr hfields, List.filter_eq_self.mpr hextras, List.nil_append]

theorem read_wire (h : Sound form p) : read form p.wire = .accepted p.resent := by
  refine read_eq_accepted.mpr ⟨?_, ?_, h.extrasOf_wire.symm⟩
  · unfold resent
    rw [List.map_map]
    exact h.fields
  · intro u hu
    obtain ⟨u, hmem, rfl⟩ := List.mem_map.mp hu
    exact h.read_field hmem

end Sound

theorem keys_sentFields_resent (values : List (Field × Option Value)) :
    (sentFields (values.map fun u => (u.1, u.2.map Value.resent))).keys =
      (sentFields values).keys := by
  induction values with
  | nil => rfl
  | cons u values ih =>
    obtain ⟨f, value⟩ := u
    cases value with
    | none => exact ih
    | some value => exact congrArg (List.cons f.key) ih

theorem sentFields_resent_eq_iff {values : List (Field × Option Value)} :
    sentFields (values.map fun u => (u.1, u.2.map Value.resent)) = sentFields values ↔
      ∀ f value, (f, some value) ∈ values → value.Intact := by
  induction values with
  | nil => simp [sentFields]
  | cons u values ih =>
    obtain ⟨f, value⟩ := u
    cases value with
    | none =>
      change sentFields (values.map _) = sentFields values ↔ _
      rw [ih]
      simp
    | some value =>
      change (f.key, value.resent.wire) :: sentFields (values.map _) =
        (f.key, value.wire) :: sentFields values ↔ _
      rw [List.cons.injEq, Prod.mk.injEq, ih, resent_wire_eq_iff]
      constructor
      · rintro ⟨⟨-, hvalue⟩, hrest⟩ g w hmem
        rcases List.mem_cons.mp hmem with heq | hmem
        · cases heq
          exact hvalue
        · exact hrest g w hmem
      · intro h
        exact ⟨⟨rfl, h f value List.mem_cons_self⟩,
          fun g w hmem => h g w (List.mem_cons_of_mem _ hmem)⟩

/-- What is sent for a request is sent again as it is, unless something in it was lost. -/
theorem resent_wire_iff : p.resent.wire = p.wire ↔ p.Intact := by
  have hlength := congrArg List.length (keys_sentFields_resent p.fields)
  unfold Dict.keys at hlength
  rw [List.length_map, List.length_map] at hlength
  unfold Intact
  rw [← sentFields_resent_eq_iff, ← sentExtras_sentExtras_eq_iff, wire_eq, wire_eq]
  constructor
  · intro h
    exact List.append_inj h hlength
  · rintro ⟨hfields, hextras⟩
    exact congrArg₂ (· ++ ·) hfields hextras

end Fields

end ChatAudit.Payload
