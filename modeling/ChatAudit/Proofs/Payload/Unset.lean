import ChatAudit.Proofs.Payload.Reading

/-! Null stands for nothing: requests without the entries that are null. -/
namespace ChatAudit.Payload
open Record

variable {form : Form} {f : Field} {d : Dict Json} {p : Payload} {key : String} {v : Json}

/-- Whether each field may be without a value. -/
def Form.Optional (form : Form) : Prop := ∀ f ∈ form.fields, f.default.isNone

theorem Form.optional_iff :
    form.Optional ↔ form ∈ [Form.sessions, .messages, .logs, .logDeletion, .summary] := by
  unfold Form.Optional
  cases form <;> decide

/-- Whether a null under the first key of the field stands before a value under the other key. -/
def Field.Hides (f : Field) (d : Dict Json) : Prop :=
  d.lookup? f.key = some .null ∧
    ∃ a, f.alternative = some a ∧ ∃ v, d.lookup? a = some v ∧ v ≠ .null

/-- Only the keyword of a list of sessions has two keys. -/
theorem Form.Optional.hides_iff (h : form.Optional) :
    (∃ f ∈ form.fields, f.Hides d) ↔ form = .sessions ∧ keyword.Hides d := by
  have hsessions : ∀ f ∈ form.fields, f.alternative.isSome → form = .sessions := by
    rw [Form.optional_iff] at h
    revert h
    cases form <;> decide
  have hkeyword : keyword ∈ Form.fields .sessions := by
    unfold Form.fields
    simp
  constructor
  · rintro ⟨f, hf, hhides⟩
    have hsome : f.alternative.isSome := by
      obtain ⟨-, a, halternative, -⟩ := hhides
      rw [halternative]
      rfl
    obtain rfl := hsessions f hf hsome
    have hkey := (Form.keyword_of_alternative .sessions f hf hsome).1
    obtain rfl : f = keyword := Fits.eq_of_key hf hkeyword hkey
    exact ⟨rfl, hhides⟩
  · rintro ⟨rfl, hhides⟩
    exact ⟨keyword, hkeyword, hhides⟩

section Given

theorem lookup?_given (hd : d.keys.Nodup) :
    (given d).lookup? key = some v ↔ d.lookup? key = some v ∧ v ≠ .null := by
  have hgiven : (given d).keys.Nodup := (List.filter_sublist.map Prod.fst).nodup hd
  rw [Dict.lookup?_eq_some_iff hgiven, Dict.lookup?_eq_some_iff hd, mem_given]

theorem has_given (hd : d.keys.Nodup) :
    (given d).has key ↔ ∃ v, d.lookup? key = some v ∧ v ≠ .null := by
  unfold Dict.has
  rw [Option.isSome_iff_exists]
  exact exists_congr fun v => lookup?_given hd

theorem has_of_given (hd : d.keys.Nodup) (h : (given d).has key) : d.has key := by
  obtain ⟨v, hv, -⟩ := (has_given hd).mp h
  exact Dict.has_of_lookup? hv

/-- Where no null hides a value, the nulls are all that a field no longer finds. -/
theorem keyIn?_given (hd : d.keys.Nodup) (hhides : ¬f.Hides d) :
    f.keyIn? (given d) = some key ↔ f.keyIn? d = some key ∧ (given d).has key := by
  rw [keyIn?_eq_some, keyIn?_eq_some]
  constructor
  · rintro ⟨hkey, rfl | ⟨hnot, halternative⟩⟩
    · exact ⟨⟨has_of_given hd hkey, .inl rfl⟩, hkey⟩
    · refine ⟨⟨has_of_given hd hkey, .inr ⟨fun hfirst => ?_, halternative⟩⟩, hkey⟩
      obtain ⟨first, hlookup⟩ := Option.isSome_iff_exists.mp hfirst
      by_cases hnull : first = .null
      · exact hhides ⟨hnull ▸ hlookup, key, halternative, (has_given hd).mp hkey⟩
      · exact hnot ((has_given hd).mpr ⟨first, hlookup, hnull⟩)
  · rintro ⟨⟨-, rfl | ⟨hnot, halternative⟩⟩, hkey⟩
    · exact ⟨hkey, .inl rfl⟩
    · exact ⟨hkey, .inr ⟨mt (has_of_given hd) hnot, halternative⟩⟩

theorem read_of_lookup (hdefault : f.default.isNone) (hkey : f.keyIn? d = some key)
    (hv : d.lookup? key = some v) :
    f.read d = (orNull f.kind.read v).below (.key key) := by
  have hread : f.read d = nullable key f.kind.read d := by
    unfold Field.read
    rw [Option.isNone_iff_eq_none.mp hdefault, hkey]
    rfl
  rw [hread]
  unfold nullable Record.optional field
  rw [hv]

theorem read_field_given (hdefault : f.default.isNone) (hd : d.keys.Nodup) (hhides : ¬f.Hides d) :
    f.read (given d) = f.read d := by
  have hgiven : ∀ key, f.keyIn? (given d) = some key ↔ f.keyIn? d = some key ∧ (given d).has key :=
    fun _ => keyIn?_given hd hhides
  cases hkey : f.keyIn? d with
  | none =>
    have hnone : f.keyIn? (given d) = none := by
      rw [Option.eq_none_iff_forall_ne_some]
      intro key h
      cases hkey.symm.trans ((hgiven key).mp h).1
    rw [read_of_absent hkey, read_of_absent hnone]
  | some key =>
    obtain ⟨v, hv⟩ := Option.isSome_iff_exists.mp (keyIn?_eq_some.mp hkey).1
    by_cases hnull : v = .null
    · have hnone : f.keyIn? (given d) = none := by
        rw [Option.eq_none_iff_forall_ne_some]
        intro other h
        obtain ⟨hother, hhas⟩ := (hgiven other).mp h
        obtain rfl : key = other := Option.some.inj (hkey.symm.trans hother)
        obtain ⟨w, hw, hne⟩ := (has_given hd).mp hhas
        exact hne (Option.some.inj (hw.symm.trans (hnull ▸ hv)))
      rw [read_of_absent hnone, read_of_lookup hdefault hkey hv, hnull,
        Option.isNone_iff_eq_none.mp hdefault]
      rfl
    · have hsome : f.keyIn? (given d) = some key :=
        (hgiven key).mpr ⟨hkey, (has_given hd).mpr ⟨v, hv, hnull⟩⟩
      rw [read_of_lookup hdefault hkey hv,
        read_of_lookup hdefault hsome ((lookup?_given hd).mpr ⟨hv, hnull⟩)]

theorem extrasOf_given {fields : List Field} (hd : d.keys.Nodup)
    (hhides : ∀ f ∈ fields, ¬f.Hides d) :
    extrasOf fields (given d) = given (extrasOf fields d) := by
  unfold extrasOf given
  rw [List.filter_filter, List.filter_filter]
  refine List.filter_congr fun e he => ?_
  by_cases hnull : e.2 = .null
  · rw [Json.isNull_iff.mpr hnull, Bool.not_true, Bool.and_false, Bool.false_and]
  · have hhas : (given d).has e.1 :=
      (has_given hd).mpr ⟨e.2, (Dict.lookup?_eq_some_iff hd).mpr he, hnull⟩
    have hsame : (fields.filterMap fun f => f.keyIn? (given d)).contains e.1 =
        (fields.filterMap fun f => f.keyIn? d).contains e.1 := by
      rw [Bool.eq_iff_iff, taken_iff, taken_iff]
      refine exists_congr fun f => and_congr_right fun hf => ?_
      rw [keyIn?_given hd (hhides f hf), and_iff_left hhas]
    exact (congrArg (fun b => !b && !e.2.isNull) hsame).trans (Bool.and_comm ..)

/-- Where no null hides a value, leaving out the nulls leaves them out of the extras as well. -/
theorem read_given (hoptional : form.Optional) (hd : d.keys.Nodup)
    (hhides : ∀ f ∈ form.fields, ¬f.Hides d) :
    read form (given d) = (read form d).map fun p => { p with extras := given p.extras } := by
  have hfields : readFields (given d) form.fields = readFields d form.fields :=
    readFields_congr fun f hf => read_field_given (hoptional f hf) hd (hhides f hf)
  unfold read
  rw [hfields, extrasOf_given hd hhides]
  cases readFields d form.fields <;> rfl

theorem sentExtras_given (x : Dict Json) : sentExtras (given x) = sentExtras x := by
  unfold sentExtras given
  rw [List.filter_filter]
  simp only [Bool.and_self]

end Given

section Hidden
variable {a : String}

/-- What a null hides is an extra entry, and is sent. -/
theorem mem_keys_wire_of_hides (h : read form d = .accepted p) (hf : f ∈ form.fields)
    (hfirst : d.has f.key) (halternative : f.alternative = some a)
    (hv : d.lookup? a = some v) (hnull : v ≠ .null) : a ∈ p.wire.keys := by
  obtain ⟨-, -, hextras⟩ := read_eq_accepted.mp h
  have hfree : ∀ g ∈ form.fields, g.keyIn? d ≠ some a := by
    intro g hg hkey
    rcases (keyIn?_eq_some.mp hkey).2 with rfl | ⟨hnot, hg'⟩
    · exact form.alternative_ne_key f hf g hg halternative
    · have hfkey := (form.keyword_of_alternative f hf (halternative ▸ rfl)).1
      have hgkey := (form.keyword_of_alternative g hg (hg' ▸ rfl)).1
      exact hnot (hgkey.trans hfkey.symm ▸ hfirst)
  have hextra : (a, v) ∈ p.extras := by
    rw [hextras]
    exact mem_extrasOf.mpr ⟨Dict.mem_of_lookup? hv, hfree⟩
  have hsent : (a, sendable v) ∈ sentExtras p.extras :=
    List.mem_map.mpr ⟨(a, v), mem_given.mpr ⟨hextra, hnull⟩, rfl⟩
  rw [wire_eq]
  exact Dict.mem_keys (List.mem_append_right _ hsent)

/-- No request sends the other key of a field that it finds there. -/
theorem not_mem_keys_wire (h : read form d = .accepted p) (hf : f ∈ form.fields)
    (halternative : f.alternative = some a) (hkey : f.keyIn? d = some a) : a ∉ p.wire.keys := by
  obtain ⟨hfields, -, hextras⟩ := read_eq_accepted.mp h
  rw [wire_eq, Dict.keys_append, List.mem_append, not_or]
  constructor
  · intro hmem
    obtain ⟨g, hg, rfl⟩ := mem_keys_sentFields hmem
    exact form.alternative_ne_key f hf g (hfields ▸ hg) halternative
  · intro hmem
    obtain ⟨e, he, rfl⟩ := List.mem_map.mp (keys_sentExtras_subset _ hmem)
    rw [hextras] at he
    exact (mem_extrasOf.mp he).2 f hf hkey

end Hidden

/-- Leaving out the nulls of a request changes neither whether it is read nor what is sent for it,
unless a null hides the keyword. Then what is sent for it changes, or it is no longer read. -/
theorem wire_given (form : Form) (d : Dict Json) (hoptional : form.Optional) (hd : d.keys.Nodup) :
    (¬(form = .sessions ∧ keyword.Hides d) →
      (read form (given d)).map wire = (read form d).map wire) ∧
    (form = .sessions → keyword.Hides d → ∀ p, read form d = .accepted p →
      (read form (given d)).map wire ≠ .accepted p.wire) := by
  rw [← hoptional.hides_iff]
  constructor
  · intro hhides
    rw [read_given hoptional hd fun f hf h => hhides ⟨f, hf, h⟩]
    cases read form d with
    | accepted p =>
      have hwire : wire { p with extras := given p.extras } = p.wire := by
        rw [wire_eq, wire_eq, sentExtras_given]
      exact congrArg Checked.accepted hwire
    | rejected issues => rfl
  · rintro rfl hhides p hp heq
    obtain ⟨p', hp', hwire⟩ := Checked.map_eq_accepted.mp heq
    obtain ⟨f, hf, hnull, a, halternative, v, hv, hne⟩ :=
      hoptional.hides_iff.mpr ⟨rfl, hhides⟩
    have hfirst : d.has f.key := Dict.has_of_lookup? hnull
    have hgiven : f.keyIn? (given d) = some a := by
      refine keyIn?_eq_some.mpr ⟨(has_given hd).mpr ⟨v, hv, hne⟩, .inr ⟨fun h => ?_, halternative⟩⟩
      obtain ⟨w, hw, hw'⟩ := (has_given hd).mp h
      exact hw' (Option.some.inj (hw.symm.trans hnull))
    have hmem := mem_keys_wire_of_hides hp hf hfirst halternative hv hne
    rw [← hwire] at hmem
    exact not_mem_keys_wire hp' hf halternative hgiven hmem

/-- Nulls of fields and of other entries, and a null before the full name of the keyword. -/
theorem wire_given_sessions :
    (read .sessions [("model", .str "m")]).map wire =
      (read .sessions [("page", .null), ("model", .str "m"), ("x", .null)]).map wire ∧
    (read .sessions [("query", .str "b")]).map wire ≠ .accepted [("query", .str "b")] := by
  have hsessions : Form.Optional .sessions := Form.optional_iff.mpr (by decide)
  constructor
  · have hd : (Dict.keys [("page", Json.null), ("model", .str "m"), ("x", .null)]).Nodup := by decide
    refine (wire_given .sessions _ hsessions hd).1 ?_
    rintro ⟨-, hnull, -⟩
    cases hnull
  · have hd : (Dict.keys [("q", Json.null), ("query", .str "b")]).Nodup := by decide
    have hhides : keyword.Hides [("q", .null), ("query", .str "b")] :=
      ⟨rfl, "query", rfl, .str "b", rfl, nofun⟩
    exact (wire_given .sessions _ hsessions hd).2 rfl hhides _ rfl

/-- A null keyword is not the same as none: its full name is then another entry. -/
theorem null_keyword_hides :
    (read .sessions [("q", .null), ("query", .str "b")]).map wire =
      .accepted [("query", .str "b")] ∧
    (read .sessions (given [("q", .null), ("query", .str "b")])).map wire =
      .accepted [("q", .str "b")] :=
  ⟨rfl, rfl⟩

end ChatAudit.Payload
