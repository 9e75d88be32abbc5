import ChatAudit.Proofs.Payload.Fit

/-! What a request record was read from: a value for each field, and the entries that are left. -/
namespace ChatAudit

theorem Json.isNull_iff {v : Json} : v.isNull ↔ v = .null := by
  cases v <;> simp [isNull]

namespace Payload
open Record

variable {form : Form} {fields : List Field} {f : Field} {d e : Dict Json} {p : Payload}
  {key : String}

theorem readFields_eq_accepted {values : List (Field × Option Value)} :
    readFields d fields = .accepted values ↔
      values.map Prod.fst = fields ∧ ∀ v ∈ values, v.1.read d = .accepted v.2 := by
  induction fields generalizing values with
  | nil =>
    unfold readFields
    constructor
    · intro h
      obtain rfl : [] = values := by simpa using h
      exact ⟨rfl, fun v hv => absurd hv List.not_mem_nil⟩
    · rintro ⟨hfields, -⟩
      rw [List.map_eq_nil_iff.mp hfields]
  | cons f fields ih =>
    unfold readFields
    rw [Checked.seq_eq_accepted]
    constructor
    · rintro ⟨build, rest, hf, hrest, rfl⟩
      obtain ⟨value, hvalue, rfl⟩ := Checked.map_eq_accepted.mp hf
      obtain ⟨hfields, hread⟩ := ih.mp hrest
      refine ⟨by rw [List.map_cons, hfields], ?_⟩
      intro v hv
      rcases List.mem_cons.mp hv with rfl | hv
      · exact hvalue
      · exact hread v hv
    · rintro ⟨hfields, hread⟩
      cases values with
      | nil => cases hfields
      | cons v values =>
        obtain ⟨rfl, hrest⟩ := List.cons.inj hfields
        have hvalues := ih.mpr ⟨hrest, fun u hu => hread u (List.mem_cons_of_mem _ hu)⟩
        have hv := hread v List.mem_cons_self
        exact ⟨_, values, Checked.map_eq_accepted.mpr ⟨v.2, hv, rfl⟩, hvalues, rfl⟩

theorem readFields_congr (h : ∀ f ∈ fields, f.read d = f.read e) :
    readFields d fields = readFields e fields := by
  induction fields with
  | nil => rfl
  | cons f fields ih =>
    unfold readFields
    rw [h f List.mem_cons_self, ih fun g hg => h g (List.mem_cons_of_mem _ hg)]

theorem read_eq_accepted : read form d = .accepted p ↔
    p.fields.map Prod.fst = form.fields ∧ (∀ v ∈ p.fields, v.1.read d = .accepted v.2) ∧
      p.extras = extrasOf form.fields d := by
  unfold read
  rw [Checked.map_eq_accepted]
  constructor
  · rintro ⟨values, hvalues, rfl⟩
    obtain ⟨hfields, hread⟩ := readFields_eq_accepted.mp hvalues
    exact ⟨hfields, hread, rfl⟩
  · rintro ⟨hfields, hread, hextras⟩
    exact ⟨p.fields, readFields_eq_accepted.mpr ⟨hfields, hread⟩, by rw [← hextras]⟩

theorem taken_iff : (fields.filterMap fun f => f.keyIn? d).contains key ↔
    ∃ f ∈ fields, f.keyIn? d = some key := by
  rw [List.contains_iff_mem, List.mem_filterMap]

/-- An entry is left if it is not the one that a field looks at. -/
theorem mem_extrasOf {v : String × Json} :
    v ∈ extrasOf fields d ↔ v ∈ d ∧ ∀ f ∈ fields, f.keyIn? d ≠ some v.1 := by
  unfold extrasOf
  rw [List.mem_filter, Bool.not_eq_true', ← Bool.not_eq_true, taken_iff]
  simp only [not_exists, not_and, ne_eq]

theorem keyIn?_of_not_has (h : ¬d.has f.key) : f.keyIn? d = f.alternative.filter d.has := by
  unfold Field.keyIn?
  rw [if_neg h]

/-- A field is found under its first key, or under the other one where the first is missing. -/
theorem keyIn?_eq_some : f.keyIn? d = some key ↔
    d.has key ∧ (key = f.key ∨ ¬d.has f.key ∧ f.alternative = some key) := by
  by_cases h : d.has f.key
  · rw [keyIn?_of_has h, Option.some.injEq]
    constructor
    · rintro rfl
      exact ⟨h, .inl rfl⟩
    · rintro ⟨-, rfl | ⟨hnot, -⟩⟩
      · rfl
      · exact absurd h hnot
  · rw [keyIn?_of_not_has h, Option.filter_eq_some_iff]
    constructor
    · rintro ⟨halternative, hkey⟩
      exact ⟨hkey, .inr ⟨h, halternative⟩⟩
    · rintro ⟨hkey, rfl | ⟨-, halternative⟩⟩
      · exact absurd hkey h
      · exact ⟨halternative, hkey⟩

/-- No field has for its other key the first key of a field. -/
theorem Form.alternative_ne_key (form : Form) :
    ∀ f ∈ form.fields, ∀ g ∈ form.fields, f.alternative ≠ some g.key := by
  cases form <;> decide

/-- Only the keyword has two keys. -/
theorem Form.keyword_of_alternative (form : Form) : ∀ f ∈ form.fields,
    f.alternative.isSome → f.key = "q" ∧ f.alternative = some "query" := by
  cases form <;> decide

theorem mem_sentFields {values : List (Field × Option Value)} {y : Json} :
    (key, y) ∈ sentFields values ↔
      ∃ f value, (f, some value) ∈ values ∧ f.key = key ∧ value.wire = y := by
  unfold sentFields
  rw [List.mem_filterMap]
  constructor
  · rintro ⟨⟨f, value⟩, hmem, hsent⟩
    obtain ⟨value, rfl, heq⟩ := Option.map_eq_some_iff.mp hsent
    obtain ⟨rfl, rfl⟩ := Prod.mk.inj heq
    exact ⟨f, value, hmem, rfl, rfl⟩
  · rintro ⟨f, value, hmem, rfl, rfl⟩
    exact ⟨(f, some value), hmem, rfl⟩

theorem mem_keys_sentFields {values : List (Field × Option Value)}
    (h : key ∈ (sentFields values).keys) : ∃ f ∈ values.map Prod.fst, f.key = key := by
  obtain ⟨⟨_, y⟩, hmem, rfl⟩ := List.mem_map.mp h
  obtain ⟨f, value, hvalue, hkey, -⟩ := mem_sentFields.mp hmem
  exact ⟨f, List.mem_map_of_mem hvalue, hkey⟩

/-- The entries that are not null. -/
def given (d : Dict Json) : Dict Json := List.filter (fun e => !e.2.isNull) d

theorem mem_given {v : String × Json} : v ∈ given d ↔ v ∈ d ∧ v.2 ≠ .null := by
  unfold given
  rw [List.mem_filter, Bool.not_eq_true', ← Bool.not_eq_true, Json.isNull_iff]

theorem given_eq_self_iff : given d = d ↔ ∀ v ∈ d, v.2 ≠ .null := by
  unfold given
  rw [List.filter_eq_self]
  refine forall₂_congr fun v _ => ?_
  rw [Bool.not_eq_true', ← Bool.not_eq_true, Json.isNull_iff]

theorem sentExtras_eq (x : Dict Json) :
    sentExtras x = (given x).map fun e => (e.1, sendable e.2) := rfl

theorem keys_sentExtras_subset (x : Dict Json) : (sentExtras x).keys ⊆ x.keys := by
  intro key hkey
  obtain ⟨v, hv, rfl⟩ := List.mem_map.mp hkey
  rw [sentExtras_eq] at hv
  obtain ⟨u, hu, rfl⟩ := List.mem_map.mp hv
  exact List.mem_map.mpr ⟨u, (mem_given.mp hu).1, rfl⟩

theorem wire_eq (p : Payload) : p.wire = sentFields p.fields ++ sentExtras p.extras := rfl

end Payload
end ChatAudit
