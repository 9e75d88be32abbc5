import ChatAudit.Payload.Basic

/-! Whatever is sent can be written: every number in it is finite. -/
namespace ChatAudit

theorem Json.finiteItems_iff {vs : List Json} : finiteItems vs ↔ ∀ v ∈ vs, v.isFinite := by
  induction vs with
  | nil => simp [finiteItems]
  | cons v vs ih => simp [finiteItems, ih]

theorem Json.finiteEntries_iff {es : Dict Json} : finiteEntries es ↔ ∀ e ∈ es, e.2.isFinite := by
  induction es with
  | nil => simp [finiteEntries]
  | cons e es ih => simp [finiteEntries, ih]

namespace Payload

mutual

theorem isFinite_sendable : (v : Json) → (sendable v).isFinite
  | .null | .bool _ | .int _ | .str _ => rfl
  | .float (.finite ..) => rfl
  | .float .nan | .float (.infinite _) => rfl
  | .arr vs => finiteItems_sendable vs
  | .obj es => finiteEntries_sendable es

theorem finiteItems_sendable : (vs : List Json) → Json.finiteItems (sendableItems vs)
  | [] => rfl
  | v :: vs => Bool.and_eq_true_iff.mpr ⟨isFinite_sendable v, finiteItems_sendable vs⟩

theorem finiteEntries_sendable :
    (es : List (String × Json)) → Json.finiteEntries (sendableEntries es)
  | [] => rfl
  | (_, v) :: es => Bool.and_eq_true_iff.mpr ⟨isFinite_sendable v, finiteEntries_sendable es⟩

end

theorem isFinite_of_mem_sentExtras {d : Dict Json} {e : String × Json} (h : e ∈ sentExtras d) :
    e.2.isFinite := by
  obtain ⟨_, -, rfl⟩ := List.mem_map.mp h
  exact isFinite_sendable _

theorem isFinite_turn (t : Turn) : (Json.obj t.wire).isFinite := by
  refine Json.finiteEntries_iff.mpr fun e he => ?_
  rcases List.mem_append.mp he with hm | hm
  · simp only [List.mem_cons, List.not_mem_nil, or_false] at hm
    rcases hm with rfl | rfl <;> rfl
  · exact isFinite_of_mem_sentExtras hm

theorem isFinite_value (v : Value) : v.wire.isFinite := by
  cases v with
  | texts ss =>
    refine Json.finiteItems_iff.mpr fun v hv => ?_
    obtain ⟨s, -, rfl⟩ := List.mem_map.mp hv
    rfl
  | turns ts =>
    refine Json.finiteItems_iff.mpr fun v hv => ?_
    obtain ⟨t, -, rfl⟩ := List.mem_map.mp hv
    exact isFinite_turn t
  | _ => rfl

theorem isFinite_wire (p : Payload) : (Json.obj p.wire).isFinite := by
  refine Json.finiteEntries_iff.mpr fun e he => ?_
  rcases List.mem_append.mp he with hm | hm
  · obtain ⟨⟨f, v⟩, -, hv⟩ := List.mem_filterMap.mp hm
    obtain ⟨value, -, rfl⟩ := Option.map_eq_some_iff.mp hv
    exact isFinite_value value
  · exact isFinite_of_mem_sentExtras hm

end Payload
end ChatAudit
