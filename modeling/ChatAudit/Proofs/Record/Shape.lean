import ChatAudit.Proofs.Record.Items
import Mathlib.Logic.Relation

/-! Changes of a value that its reader does not notice: entries that no field is read from, and
lists that are empty, null or missing. -/
namespace ChatAudit.Record
variable {α β : Type}

/-- Where a value holds records, lists of them and records by name. -/
inductive Shape
  /-- No record in it is read. -/
  | plain
  | list (item : Shape)
  /-- A list where null stands for none. -/
  | listOrNull (item : Shape)
  | dict (value : Shape)
  | record (fields : List (String × Shape))

/-- One change within a value of a shape. -/
inductive Edit : Shape → Json → Json → Prop
  /-- An entry that the record does not declare, at any place of it. -/
  | insert {fields : Dict Shape} {key : String} (h : fields.lookup? key = none)
    (before : Dict Json) (v : Json) (after : Dict Json) :
    Edit (.record fields) (.obj (before ++ after)) (.obj (before ++ (key, v) :: after))
  /-- A null entry in place of a list is left out. -/
  | remove {fields : Dict Shape} {key : String} {item : Shape} {d : Dict Json}
    (h : fields.lookup? key = some (.listOrNull item)) (hd : d.lookup? key = some .null) :
    Edit (.record fields) (.obj d) (.obj (d.without key))
  /-- Null in place of a list becomes the empty list. -/
  | empty (item : Shape) : Edit (.listOrNull item) .null (.arr [])
  | field {fields : Dict Shape} {key : String} {s : Shape} {v w : Json}
    (h : fields.lookup? key = some s) (hv : Edit s v w) (before after : Dict Json) :
    Edit (.record fields) (.obj (before ++ (key, v) :: after)) (.obj (before ++ (key, w) :: after))
  | item {s : Shape} {v w : Json} (hv : Edit s v w) (before after : List Json) :
    Edit (.list s) (.arr (before ++ v :: after)) (.arr (before ++ w :: after))
  | itemOrNull {s : Shape} {v w : Json} (hv : Edit s v w) (before after : List Json) :
    Edit (.listOrNull s) (.arr (before ++ v :: after)) (.arr (before ++ w :: after))
  | entry {s : Shape} {v w : Json} (hv : Edit s v w) (key : String) (before after : Dict Json) :
    Edit (.dict s) (.obj (before ++ (key, v) :: after)) (.obj (before ++ (key, w) :: after))

/-- Whether a reader does not notice changes of a shape. -/
def Tolerates (s : Shape) (read : Reader α) : Prop := ∀ v w, Edit s v w → read v = read w

/-- Whether what is read from an object does not notice changes of its fields. -/
def Keeps (fields : Dict Shape) (read : Dict Json → Checked α) : Prop :=
  ∀ d e, Edit (.record fields) (.obj d) (.obj e) → read d = read e

section Readers
variable {s : Shape} {read : Reader α} {v w : Json}

/-- Any number of changes are not noticed either. -/
theorem Tolerates.run (h : Tolerates s read) (hvw : Relation.ReflTransGen (Edit s) v w) :
    read v = read w := by
  induction hvw with
  | refl => rfl
  | tail _ hstep ih => exact ih.trans (h _ _ hstep)

theorem tolerates_plain (read : Reader α) : Tolerates .plain read := nofun

theorem items_congr (h : read v = read w) (before after : List Json) (n : Nat) :
    items read n (before ++ v :: after) = items read n (before ++ w :: after) := by
  induction before generalizing n with
  | nil =>
    rw [List.nil_append, List.nil_append, items, items, h]
  | cons b before ih =>
    rw [List.cons_append, List.cons_append, items, items, ih]

theorem entries_congr (h : read v = read w) (key : String) (before after : Dict Json) :
    entries read (before ++ (key, v) :: after) = entries read (before ++ (key, w) :: after) := by
  induction before with
  | nil => rw [List.nil_append, List.nil_append, entries, entries, h]
  | cons b before ih =>
    obtain ⟨k, u⟩ := b
    rw [List.cons_append, List.cons_append, entries, entries, ih]

theorem Tolerates.list (h : Tolerates s read) : Tolerates (.list s) (list read) := by
  intro _ _ hvw
  cases hvw with
  | item hv before after => exact items_congr (h _ _ hv) before after 0

theorem Tolerates.listOrNull (h : Tolerates s read) :
    Tolerates (.listOrNull s) (listOrNull read) := by
  intro _ _ hvw
  cases hvw with
  | empty => rfl
  | itemOrNull hv before after => exact items_congr (h _ _ hv) before after 0

theorem Tolerates.dict (h : Tolerates s read) : Tolerates (.dict s) (dict read) := by
  intro _ _ hvw
  cases hvw with
  | entry hv key before after => exact entries_congr (h _ _ hv) key before after

theorem Keeps.tolerates {fields : Dict Shape} {read : Dict Json → Checked α}
    (h : Keeps fields read) : Tolerates (.record fields) (record read) := by
  intro v w hvw
  have hobjects : ∃ d e, v = .obj d ∧ w = .obj e := by
    cases hvw <;> exact ⟨_, _, rfl, rfl⟩
  obtain ⟨d, e, rfl, rfl⟩ := hobjects
  exact h d e hvw

end Readers

section Fields
variable {fields : Dict Shape} {f : Dict Json → Checked (α → β)} {g : Dict Json → Checked α}
  {s item : Shape} {key : String} {absent : Checked α} {read : Reader α}

theorem Keeps.map (build : α → β) (hg : Keeps fields g) : Keeps fields fun d => build <$> g d :=
  fun d e h => congrArg (build <$> ·) (hg d e h)

theorem Keeps.seq (hf : Keeps fields f) (hg : Keeps fields g) :
    Keeps fields fun d => f d <*> g d :=
  fun d e h => congrArg₂ (· <*> ·) (hf d e h) (hg d e h)

/-- A declared field notices nothing if its reader does not, and if without its entry it is what
null stands for. -/
theorem keeps_field (hs : fields.lookup? key = some s) (hread : Tolerates s read)
    (habsent : ∀ item, s = .listOrNull item → absent = read .null) :
    Keeps fields (field key absent read) := by
  intro d e h
  cases h with
  | @insert _ other hother before v after =>
    have hne : key ≠ other := by
      rintro rfl
      cases hs.symm.trans hother
    rw [field, field, Dict.lookup?_insert hne]
  | @remove _ other item _ hother hd =>
    by_cases hkey : key = other
    · subst hkey
      obtain rfl := Option.some.inj (hs.symm.trans hother)
      rw [field, field, hd, Dict.lookup?_without_self, habsent item rfl]
    · rw [field, field, Dict.lookup?_without hkey]
  | @field _ other s' v w hother hv before after =>
    by_cases hkey : key = other
    · subst hkey
      obtain rfl := Option.some.inj (hs.symm.trans hother)
      have hvw := hread v w hv
      rw [field, field, Dict.lookup?_append_eq_or, Dict.lookup?_append_eq_or]
      cases Dict.lookup? key before with
      | some u => rfl
      | none => simp [Dict.lookup?, hvw]
    · rw [field, field, Dict.lookup?_insert hkey, Dict.lookup?_insert hkey]

theorem keeps_plain (hs : fields.lookup? key = some .plain) :
    Keeps fields (field key absent read) :=
  keeps_field hs (tolerates_plain read) nofun

theorem keeps_lists (hs : fields.lookup? key = some (.listOrNull s)) (hread : Tolerates s read) :
    Keeps fields (optional key [] (listOrNull read)) :=
  keeps_field hs hread.listOrNull fun _ _ => rfl

end Fields
end ChatAudit.Record
