import ChatAudit.Payload.Basic
import ChatAudit.Proofs.Calendar.Iso
import ChatAudit.Proofs.Record.Items
import Mathlib.Data.List.Dedup

/-! Entries that fit a request: they are taken, and all of them are sent. -/
namespace ChatAudit.Payload
open Record

variable {form : Form} {f : Field} {d e w x : Dict Json} {key : String} {v y : Json}

theorem Form.nodup_keys (form : Form) : (form.fields.map (·.key)).Nodup := by
  cases form <;> decide

/-- Whether the field takes the value `v` and sends `y` for it. -/
def Field.Sends (f : Field) (v y : Json) : Prop :=
  v ≠ .null ∧ ∃ value, f.kind.read v = .accepted value ∧ value.wire = y

theorem keyIn?_of_has (h : d.has f.key) : f.keyIn? d = some f.key := by
  unfold Field.keyIn?
  rw [if_pos h]

/-- A field that is there under its first key has the value that is read there. -/
theorem read_of_present {value : Value} (hv : d.lookup? f.key = some v) (hnull : v ≠ .null)
    (hread : f.kind.read v = .accepted value) : f.read d = .accepted (some value) := by
  unfold Field.read
  rw [keyIn?_of_has (Dict.has_of_lookup? hv)]
  cases f.default with
  | none => exact optional_of_present hv (orNull_of_ne hnull hread)
  | some default => exact congrArg (Checked.map some) (optional_of_present hv hread)

/-- A field that is not there has its default. -/
theorem read_of_absent (h : f.keyIn? d = none) : f.read d = .accepted f.default := by
  have hlookup : d.lookup? f.key = none := by
    refine Dict.lookup?_eq_none_iff.mpr fun hm => ?_
    rw [keyIn?_of_has (Dict.has_iff.mpr hm)] at h
    cases h
  rw [Field.read, h]
  cases f.default with
  | none => exact optional_of_absent hlookup
  | some v => exact congrArg (Checked.map some) (optional_of_absent hlookup)

theorem readFields_of_absent {fields : List Field} (h : ∀ f ∈ fields, f.keyIn? d = none) :
    readFields d fields = .accepted (fields.map fun f => (f, f.default)) := by
  induction fields with
  | nil => rfl
  | cons f fields ih =>
    obtain ⟨hf, hfields⟩ := List.forall_mem_cons.mp h
    rw [readFields, read_of_absent hf, ih hfields]
    rfl
theorem keyIn?_of_ne {f : Field} {key : String} (v : Json) (h : f.key ≠ key)
    (ha : f.alternative ≠ some key) : f.keyIn? [(key, v)] = none := by
  have hhas {other : String} (hne : other ≠ key) : Dict.has other [(key, v)] = false := by
    simp [Dict.has, Dict.lookup?, hne.symm]
  rw [Field.keyIn?, if_neg (by simp [hhas h])]
  cases halternative : f.alternative with
  | none => rfl
  | some other =>
    have hne : other ≠ key := fun heq => ha (heq ▸ halternative)
    simp [Option.filter, hhas hne]

/-- Entries, each under the first key of a field of the form, and what is sent for them. Null is
not sent. -/
inductive Fits (form : Form) : Dict Json → Dict Json → Prop
  | nil : Fits form [] []
  | sent {f : Field} {v y : Json} {d w : Dict Json} : f ∈ form.fields → f.Sends v y →
      Fits form d w → Fits form ((f.key, v) :: d) ((f.key, y) :: w)
  | null {f : Field} {d w : Dict Json} : f ∈ form.fields → f.default.isNone → Fits form d w →
      Fits form ((f.key, .null) :: d) w

namespace Fits

theorem append (h : Fits form d w) (h' : Fits form e x) : Fits form (d ++ e) (w ++ x) := by
  induction h with
  | nil => exact h'
  | sent hf hs _ ih => exact .sent hf hs ih
  | null hf hn _ ih => exact .null hf hn ih

/-- Entries that are sent as they are. -/
theorem refl (h : ∀ e ∈ d, ∃ f ∈ form.fields, f.key = e.1 ∧ f.Sends e.2 e.2) : Fits form d d := by
  induction d with
  | nil => exact .nil
  | cons e d ih =>
    obtain ⟨f, hf, hkey, hs⟩ := h e List.mem_cons_self
    have hrest := Fits.sent hf hs (ih fun e he => h e (List.mem_cons_of_mem _ he))
    rwa [hkey] at hrest

theorem declared (h : Fits form d w) (hk : key ∈ d.keys) : ∃ f ∈ form.fields, f.key = key := by
  induction h with
  | nil => cases hk
  | sent hf _ _ ih =>
    rcases List.mem_cons.mp hk with rfl | hk
    · exact ⟨_, hf, rfl⟩
    · exact ih hk
  | null hf _ _ ih =>
    rcases List.mem_cons.mp hk with rfl | hk
    · exact ⟨_, hf, rfl⟩
    · exact ih hk

theorem keys_sublist (h : Fits form d w) : w.keys.Sublist d.keys := by
  induction h with
  | nil => exact .slnil
  | sent _ _ _ ih => exact ih.cons_cons _
  | null _ _ _ ih => exact ih.cons _

theorem eq_of_key {g : Field} (hf : f ∈ form.fields) (hg : g ∈ form.fields) (h : f.key = g.key) :
    f = g :=
  List.inj_on_of_nodup_map form.nodup_keys hf hg h

/-- What is sent for an entry that is there. -/
theorem of_mem (h : Fits form d w) (hf : f ∈ form.fields) (hv : (f.key, v) ∈ d) :
    (∃ y, f.Sends v y ∧ (f.key, y) ∈ w) ∨ v = .null ∧ f.default.isNone := by
  induction h with
  | nil => cases hv
  | sent hg hs _ ih =>
    rcases List.mem_cons.mp hv with heq | hv
    · obtain ⟨hkey, rfl⟩ := Prod.mk.inj heq
      obtain rfl := eq_of_key hf hg hkey
      exact .inl ⟨_, hs, List.mem_cons_self⟩
    · rcases ih hv with ⟨y, hs, hy⟩ | hnull
      · exact .inl ⟨y, hs, List.mem_cons_of_mem _ hy⟩
      · exact .inr hnull
  | null hg hn _ ih =>
    rcases List.mem_cons.mp hv with heq | hv
    · obtain ⟨hkey, rfl⟩ := Prod.mk.inj heq
      obtain rfl := eq_of_key hf hg hkey
      exact .inr ⟨rfl, hn⟩
    · exact ih hv

theorem of_mem_sent (h : Fits form d w) (hy : (key, y) ∈ w) : ∃ v, v ≠ .null ∧ (key, v) ∈ d := by
  induction h with
  | nil => cases hy
  | sent _ hs _ ih =>
    rcases List.mem_cons.mp hy with heq | hy
    · obtain ⟨rfl, rfl⟩ := Prod.mk.inj heq
      exact ⟨_, hs.1, List.mem_cons_self⟩
    · obtain ⟨v, hv, hmem⟩ := ih hy
      exact ⟨v, hv, List.mem_cons_of_mem _ hmem⟩
  | null _ _ _ ih =>
    obtain ⟨v, hv, hmem⟩ := ih hy
    exact ⟨v, hv, List.mem_cons_of_mem _ hmem⟩

end Fits

/-- Whether no entry takes the place of another field: each has the first key of its own, and fields
with a default are there. -/
structure Plain (form : Form) (d : Dict Json) : Prop where
  nodup : d.keys.Nodup
  defaults : ∀ f ∈ form.fields, f.default.isSome → f.key ∈ d.keys
  alternatives : ∀ f ∈ form.fields, ∀ a ∈ f.alternative, a ∉ d.keys

section Read

theorem keyIn?_getD (h : Plain form d) (hf : f ∈ form.fields) : (f.keyIn? d).getD f.key = f.key := by
  unfold Field.keyIn?
  split_ifs
  · rfl
  · cases ha : f.alternative with
    | none => rfl
    | some a =>
      have hnone : d.has a = false :=
        Bool.eq_false_iff.mpr (mt Dict.has_iff.mp (h.alternatives f hf a ha))
      simp [Option.filter, hnone]

/-- What a field is read as is what is sent for it. -/
theorem read_field (hfit : Fits form d w) (h : Plain form d) (hf : f ∈ form.fields) :
    ∃ value, f.read d = .accepted value ∧
      ∀ y, value.map Value.wire = some y ↔ (f.key, y) ∈ w := by
  have hw : w.keys.Nodup := hfit.keys_sublist.nodup h.nodup
  cases hl : d.lookup? f.key with
  | none =>
    have hkey := Dict.lookup?_eq_none_iff.mp hl
    have hdefault : f.default = none :=
      Option.not_isSome_iff_eq_none.mp (mt (h.defaults f hf) hkey)
    refine ⟨none, ?_, fun y => iff_of_false (by simp) fun hy => ?_⟩
    · rw [Field.read, keyIn?_getD h hf, hdefault]
      exact optional_of_absent hl
    · exact hkey (hfit.keys_sublist.subset (Dict.mem_keys hy))
  | some v =>
    have hmem := Dict.mem_of_lookup? hl
    rcases hfit.of_mem hf hmem with ⟨y, ⟨hnull, value, hread, rfl⟩, hy⟩ | ⟨rfl, hdefault⟩
    · refine ⟨some value, read_of_present hl hnull hread, fun z => ?_⟩
      rw [Option.map_some, Option.some.injEq, ← Dict.lookup?_eq_some_iff hw,
        (Dict.lookup?_eq_some_iff hw).mpr hy, Option.some.injEq]
    · refine ⟨none, ?_, fun y => iff_of_false (by simp) fun hy => ?_⟩
      · rw [Field.read, keyIn?_getD h hf, Option.isNone_iff_eq_none.mp hdefault]
        exact optional_of_present hl rfl
      · obtain ⟨v, hv, hmem'⟩ := hfit.of_mem_sent hy
        exact hv (Option.some.inj (((Dict.lookup?_eq_some_iff h.nodup).mpr hmem').symm.trans hl))

/-- What is sent for fields that were read. -/
def sentFields (fields : List (Field × Option Value)) : Dict Json :=
  fields.filterMap fun (f, v) => v.map fun v => (f.key, v.wire)

theorem read_fields (hfit : Fits form d w) (h : Plain form d) {fields : List Field}
    (hsub : fields.Sublist form.fields) : ∃ values, readFields d fields = .accepted values ∧
      (sentFields values).keys.Sublist (fields.map (·.key)) ∧
        ∀ key y, (key, y) ∈ sentFields values ↔ key ∈ fields.map (·.key) ∧ (key, y) ∈ w := by
  induction fields with
  | nil => exact ⟨[], rfl, .slnil, by simp [sentFields]⟩
  | cons f fields ih =>
    obtain ⟨values, hvalues, hkeys, hmem⟩ := ih ((List.sublist_cons_self f fields).trans hsub)
    obtain ⟨value, hvalue, hwire⟩ := read_field hfit h (hsub.subset List.mem_cons_self)
    refine ⟨(f, value) :: values, ?_, ?_, fun key y => ?_⟩
    · simp [readFields, hvalue, hvalues, Functor.map, Seq.seq, Checked.map, Checked.apply]
    · cases value with
      | none => exact hkeys.cons _
      | some value => exact hkeys.cons_cons _
    · have hhead : (key, y) ∈ sentFields [(f, value)] ↔ key = f.key ∧ (key, y) ∈ w := by
        constructor
        · intro hy
          cases value with
          | none => simp [sentFields] at hy
          | some value =>
            obtain ⟨rfl, rfl⟩ : key = f.key ∧ y = value.wire := by simpa [sentFields] using hy
            exact ⟨rfl, (hwire _).mp rfl⟩
        · rintro ⟨rfl, hy⟩
          obtain ⟨value', rfl, rfl⟩ := Option.map_eq_some_iff.mp ((hwire y).mpr hy)
          simp [sentFields]
      have hsplit : sentFields ((f, value) :: values) =
          sentFields [(f, value)] ++ sentFields values := by
        cases value <;> simp [sentFields]
      rw [hsplit, List.mem_append, hhead, hmem, List.map_cons, List.mem_cons, or_and_right]

theorem extrasOf_eq_nil (hfit : Fits form d w) : extrasOf form.fields d = [] := by
  unfold extrasOf
  rw [List.filter_eq_nil_iff]
  intro e he
  obtain ⟨f, hf, hkey⟩ := hfit.declared (Dict.mem_keys he)
  have hin : f.keyIn? d = some e.1 := by
    rw [Field.keyIn?, hkey, if_pos (Dict.has_iff.mpr (Dict.mem_keys he))]
  have hmem : e.1 ∈ form.fields.filterMap fun f => f.keyIn? d :=
    List.mem_filterMap.mpr ⟨f, hf, hin⟩
  simpa using hmem

/-- Entries that fit are read, and in the order of the form nothing else is sent. -/
theorem exists_read (hfit : Fits form d w) (h : Plain form d) :
    ∃ p, read form d = .accepted p ∧ p.wire.Perm w := by
  obtain ⟨values, hvalues, hkeys, hmem⟩ := read_fields hfit h (.refl form.fields)
  refine ⟨⟨values, extrasOf form.fields d⟩, ?_, ?_⟩
  · simp [read, hvalues, Functor.map, Checked.map]
  · have hwire : wire ⟨values, extrasOf form.fields d⟩ = sentFields values := by
      simp [wire, extrasOf_eq_nil hfit, sentExtras, sentFields]
    have hw := hfit.keys_sublist.nodup h.nodup
    rw [hwire, List.perm_ext_iff_of_nodup (List.Nodup.of_map _ (hkeys.nodup form.nodup_keys))
      (List.Nodup.of_map _ hw)]
    rintro ⟨key, y⟩
    rw [hmem, and_iff_right_iff_imp]
    intro hy
    obtain ⟨f, hf, rfl⟩ := hfit.declared (hfit.keys_sublist.subset (Dict.mem_keys hy))
    exact List.mem_map_of_mem hf

end Read

section Kinds

/-- Whether the form has a field of the kind under the key. -/
def Form.Takes (form : Form) (kind : Kind) (key : String) : Bool :=
  form.fields.any fun f => f.key == key && f.kind == kind

theorem exists_field {kind : Kind} (h : form.Takes kind key) :
    ∃ f ∈ form.fields, f.key = key ∧ f.kind = kind := by
  obtain ⟨f, hf, heq⟩ := List.any_eq_true.mp h
  simp only [Bool.and_eq_true, beq_iff_eq] at heq
  exact ⟨f, hf, heq⟩

theorem Fits.cons {kind : Kind} (h : form.Takes kind key)
    (hs : ∀ f : Field, f.kind = kind → f.Sends v y) (hfit : Fits form d w) :
    Fits form ((key, v) :: d) ((key, y) :: w) := by
  obtain ⟨f, hf, rfl, hkind⟩ := exists_field h
  exact .sent hf (hs f hkind) hfit

/-- Whether the form has a field under the key that may be without a value. -/
def Form.Leaves (form : Form) (key : String) : Bool :=
  form.fields.any fun f => f.key == key && f.default.isNone

theorem Fits.cons_null (h : form.Leaves key) (hfit : Fits form d w) :
    Fits form ((key, .null) :: d) w := by
  obtain ⟨f, hf, heq⟩ := List.any_eq_true.mp h
  obtain ⟨hkey, hdefault⟩ := Bool.and_eq_true_iff.mp heq
  exact beq_iff_eq.mp hkey ▸ .null hf hdefault hfit

theorem sends_integer (hf : f.kind = .integer) (n : Int) : f.Sends (.int n) (.int n) :=
  ⟨nofun, .integer n, by rw [hf]; rfl, rfl⟩

theorem sends_text (hf : f.kind = .text) (s : String) : f.Sends (.str s) (.str s) :=
  ⟨nofun, .text s, by rw [hf]; rfl, rfl⟩

theorem sends_truth (hf : f.kind = .truth) (b : Bool) : f.Sends (.bool b) (.bool b) :=
  ⟨nofun, .truth b, by rw [hf]; rfl, rfl⟩

/-- An instant may be given as ISO text. -/
theorem sends_instant (hf : f.kind = .instant) {t : Timestamp}
    (ht : ∀ o ∈ t.offset, Timestamp.Offset o) : f.Sends (.str t.iso) (.str t.wire) := by
  refine ⟨nofun, .instant t, ?_, rfl⟩
  rw [hf, Kind.read, Record.instant, Timestamp.read_iso ht]
  rfl

/-- Turns of a conversation are given as they are sent. -/
theorem sends_turns (hf : f.kind = .turns) {turns : List Turn} (h : ∀ t ∈ turns, t.extras = []) :
    f.Sends
      (.arr (turns.map fun t => .obj ([("role", .str t.role), ("content", .str t.content)] ++ t.extras)))
      (.arr (turns.map fun t => .obj t.wire)) := by
  refine ⟨nofun, .turns turns, ?_, rfl⟩
  rw [hf, Kind.read, list, items_map fun t ht => ?_]
  · rfl
  · obtain ⟨role, content, extras⟩ := t
    obtain rfl : extras = [] := h _ ht
    rfl

end Kinds

end ChatAudit.Payload
