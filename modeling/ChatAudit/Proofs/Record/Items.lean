import ChatAudit.Record.Fields
import ChatAudit.Proofs.Dict

/-! Checks in parts: the whole is accepted just if each part is, and tells the issues of all parts
in their order. -/
namespace ChatAudit.Record
variable {α β : Type}

namespace Checked
variable {b : β}

theorem map_eq_accepted {f : α → β} {r : Checked α} :
    f <$> r = .accepted b ↔ ∃ a, r = .accepted a ∧ f a = b := by
  change r.map f = .accepted b ↔ _
  cases r <;> simp [map]

theorem seq_eq_accepted {g : Checked (α → β)} {r : Checked α} :
    g <*> r = .accepted b ↔ ∃ f a, g = .accepted f ∧ r = .accepted a ∧ f a = b := by
  change g.apply r = .accepted b ↔ _
  cases g <;> cases r <;> simp [apply]

theorem below_eq_accepted {step : Step} {r : Checked β} :
    r.below step = .accepted b ↔ r = .accepted b := by
  cases r <;> simp [below]

/-- Whether there is a value. -/
def Accepts (r : Checked α) : Prop := ∃ a, r = .accepted a

/-- What is wrong with the input, nothing if there is a value. -/
def issues : Checked α → List Issue
  | .accepted _ => []
  | .rejected es => es

@[simp] theorem accepts_map {f : α → β} {r : Checked α} : (f <$> r).Accepts ↔ r.Accepts := by
  simp [Accepts, map_eq_accepted]

@[simp] theorem accepts_seq {g : Checked (α → β)} {r : Checked α} :
    (g <*> r).Accepts ↔ g.Accepts ∧ r.Accepts := by
  simp [Accepts, seq_eq_accepted]

@[simp] theorem accepts_below {step : Step} {r : Checked α} :
    (r.below step).Accepts ↔ r.Accepts := by
  simp [Accepts, below_eq_accepted]

@[simp] theorem issues_map {f : α → β} {r : Checked α} : (f <$> r).issues = r.issues := by
  change (r.map f).issues = r.issues
  cases r <;> rfl

@[simp] theorem issues_seq {g : Checked (α → β)} {r : Checked α} :
    (g <*> r).issues = g.issues ++ r.issues := by
  change (g.apply r).issues = _
  cases g <;> cases r <;> simp [apply, issues]

end Checked

/-- The issue of a part, as one of the whole. -/
def Issue.below (step : Step) (e : Issue) : Issue := ⟨e.cause, step :: e.path⟩

@[simp] theorem Checked.issues_below {step : Step} {r : Checked α} :
    (r.below step).issues = r.issues.map (Issue.below step) := by
  cases r <;> rfl

section Items
variable {read : Reader α} {v : Json} {vs : List Json} {as : List α} {n : Nat}

/-- Whether the values are those of the items, each read on its own. -/
def Each (read : Reader α) (vs : List Json) (as : List α) : Prop :=
  List.Forall₂ (fun v a => read v = .accepted a) vs as

/-- The issues of the items, each below the position of its item. -/
def itemIssues (read : Reader α) (vs : List Json) : List Issue :=
  vs.zipIdx.flatMap fun p => (read p.1).issues.map (Issue.below (.index p.2))

theorem items_eq_accepted : items read n vs = .accepted as ↔ Each read vs as := by
  induction vs generalizing n as with
  | nil =>
    unfold items Each
    rw [List.forall₂_nil_left_iff, Checked.accepted.injEq, eq_comm]
  | cons v vs ih =>
    unfold items
    rw [Checked.seq_eq_accepted]
    constructor
    · rintro ⟨build, rest, hv, hrest, rfl⟩
      obtain ⟨a, ha, rfl⟩ := Checked.map_eq_accepted.mp hv
      exact .cons (Checked.below_eq_accepted.mp ha) (ih.mp hrest)
    · rintro (_ | ⟨hv, hvs⟩)
      exact ⟨_, _, Checked.map_eq_accepted.mpr ⟨_, Checked.below_eq_accepted.mpr hv, rfl⟩,
        ih.mpr hvs, rfl⟩

theorem accepts_items : (items read n vs).Accepts ↔ ∀ v ∈ vs, (read v).Accepts := by
  induction vs generalizing n with
  | nil => exact iff_of_true ⟨[], rfl⟩ (by simp)
  | cons v vs ih =>
    unfold items
    simp [ih]

theorem issues_items_from : (items read n vs).issues =
    (vs.zipIdx n).flatMap fun p => (read p.1).issues.map (Issue.below (.index p.2)) := by
  induction vs generalizing n with
  | nil => rfl
  | cons v vs ih =>
    unfold items
    simp [ih]

theorem issues_items : (items read 0 vs).issues = itemIssues read vs := issues_items_from

theorem items_map_eq {l : List β} {g : β → Json} {f : β → α}
    (h : ∀ b ∈ l, read (g b) = .accepted (f b)) (n : Nat) :
    items read n (l.map g) = .accepted (l.map f) := by
  rw [items_eq_accepted, Each, List.forall₂_map_left_iff, List.forall₂_map_right_iff,
    List.forall₂_same]
  exact h

theorem items_map {l : List α} {g : α → Json} (h : ∀ a ∈ l, read (g a) = .accepted a) (n : Nat) :
    items read n (l.map g) = .accepted l := by
  simpa using items_map_eq (f := id) h n

end Items

section Fields
variable {key other : String} {d : Dict Json} {read : Reader α} {absent : Checked α} {v : Json}
  {a b : α}

theorem field_of_present (h : d.lookup? key = some v) :
    field key absent read d = (read v).below (.key key) := by
  simp [field, h]

theorem optional_of_absent (h : d.lookup? key = none) :
    optional key a read d = .accepted a := by
  simp [optional, field, h, Checked.below]

theorem optional_of_present (h : d.lookup? key = some v) (hread : read v = .accepted b) :
    optional key a read d = .accepted b := by
  simp [optional, field, h, hread, Checked.below]

theorem orNull_of_ne (hv : v ≠ .null) (hread : read v = .accepted a) :
    orNull read v = .accepted (some a) := by
  cases v <;> first | exact absurd rfl hv | simp [orNull, hread, Checked.map]

/-- A field looks at its own entry alone. -/
theorem field_without (h : key ≠ other) :
    field key absent read (d.without other) = field key absent read d := by
  rw [field, field, Dict.lookup?_without h]

theorem required_without (h : key ≠ other) :
    required key read (d.without other) = required key read d := field_without h

theorem optional_without (h : key ≠ other) (default : α) :
    optional key default read (d.without other) = optional key default read d := field_without h

theorem nullable_without (h : key ≠ other) :
    nullable key read (d.without other) = nullable key read d := optional_without h none

end Fields
end ChatAudit.Record
