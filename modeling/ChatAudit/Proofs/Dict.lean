import ChatAudit.Dict
import Mathlib.Data.List.Induction
import Mathlib.Data.List.Nodup

/-! Looking up, adding and leaving out named values. -/
namespace ChatAudit.Dict

variable {α : Type} {d : Dict α} {key other : String} {v : α}

/-- The names, in order. -/
def keys (d : Dict α) : List String := List.map Prod.fst d

theorem has_iff : d.has key ↔ key ∈ d.keys := by
  induction d with
  | nil => simp [has, lookup?, keys]
  | cons e d ih =>
    by_cases he : e.1 = key
    · simp [has, lookup?, keys, he]
    · have hne : key ≠ e.1 := fun h => he h.symm
      simp only [has, lookup?, keys, beq_iff_eq, he, if_false, List.map_cons, List.mem_cons, hne,
        false_or] at ih ⊢
      exact ih

theorem lookup?_eq_none_iff : d.lookup? key = none ↔ key ∉ d.keys := by
  rw [← has_iff, has, Option.isSome_iff_ne_none, not_not]

theorem mem_of_lookup? (h : d.lookup? key = some v) : (key, v) ∈ d := by
  induction d with
  | nil => cases h
  | cons e d ih =>
    unfold lookup? at h
    by_cases he : e.1 = key
    · obtain rfl := Option.some.inj ((if_pos (beq_iff_eq.mpr he)).symm.trans h)
      exact he ▸ List.mem_cons_self
    · exact List.mem_cons_of_mem e (ih (by simpa [he] using h))

theorem mem_keys (h : (key, v) ∈ d) : key ∈ d.keys := List.mem_map_of_mem h

theorem has_of_lookup? (h : d.lookup? key = some v) : d.has key :=
  has_iff.mpr (mem_keys (mem_of_lookup? h))

/-- With names that differ an entry is what its name is looked up as. -/
theorem lookup?_eq_some_iff (hd : d.keys.Nodup) : d.lookup? key = some v ↔ (key, v) ∈ d := by
  refine ⟨mem_of_lookup?, fun h => ?_⟩
  obtain ⟨w, hw⟩ := Option.ne_none_iff_exists'.mp
    (mt lookup?_eq_none_iff.mp (not_not.mpr (mem_keys h)))
  have heq := List.inj_on_of_nodup_map hd h (mem_of_lookup? hw) rfl
  rw [hw, (Prod.mk.inj heq).2]

/-- A new name goes to the end. -/
theorem put_of_not_mem (h : key ∉ d.keys) : d.put key v = d ++ [(key, v)] := by
  induction d with
  | nil => rfl
  | cons e d ih =>
    obtain ⟨hne, hd⟩ := not_or.mp (mt List.mem_cons.mpr h)
    have he : ¬e.1 = key := fun h => hne h.symm
    simp [put, he, ih hd]

theorem mem_put {e : String × α} (h : e ∈ d.put key v) : e = (key, v) ∨ e ∈ d := by
  induction d with
  | nil => exact .inl (List.mem_singleton.mp h)
  | cons f d ih =>
    unfold put at h
    split_ifs at h
    · rcases List.mem_cons.mp h with rfl | h
      · exact .inl rfl
      · exact .inr (List.mem_cons_of_mem f h)
    · rcases List.mem_cons.mp h with rfl | h
      · exact .inr List.mem_cons_self
      · exact (ih h).imp_right (List.mem_cons_of_mem f)

/-- A known name keeps its place. -/
theorem keys_put_of_mem (h : key ∈ d.keys) : (d.put key v).keys = d.keys := by
  induction d with
  | nil => cases h
  | cons e d ih =>
    unfold put
    split_ifs with he
    · exact congrArg (· :: keys d) (beq_iff_eq.mp he).symm
    · have hd : key ∈ keys d :=
        (List.mem_cons.mp h).resolve_left fun hkey => he (beq_iff_eq.mpr hkey.symm)
      exact congrArg (e.1 :: ·) (ih hd)

theorem nodup_keys_put (h : d.keys.Nodup) : (d.put key v).keys.Nodup := by
  by_cases hkey : key ∈ d.keys
  · rw [keys_put_of_mem hkey]
    exact h
  · rw [put_of_not_mem hkey]
    unfold keys at hkey ⊢
    rw [List.map_append, List.nodup_append_comm, List.map_singleton, List.singleton_append,
      List.nodup_cons]
    exact ⟨hkey, h⟩

theorem mem_keys_put : other ∈ (d.put key v).keys ↔ other = key ∨ other ∈ d.keys := by
  by_cases hkey : key ∈ d.keys
  · rw [keys_put_of_mem hkey]
    exact ⟨.inr, fun h => h.elim (· ▸ hkey) id⟩
  · rw [put_of_not_mem hkey]
    simp [keys, or_comm]

theorem lookup?_put (key other : String) (v : α) (d : Dict α) :
    (d.put key v).lookup? other = if key = other then some v else d.lookup? other := by
  induction d with
  | nil => simp [put, lookup?]
  | cons e d ih =>
    by_cases he : e.1 = key
    · by_cases hother : key = other <;> simp [put, lookup?, he, hother]
    · have hne : key = other → e.1 ≠ other := fun h heq => he (heq.trans h.symm)
      by_cases hother : key = other
      · simp only [hother, if_true] at ih
        simp [put, lookup?, hother, hne hother, ih]
      · simp only [hother, if_false] at ih
        simp [put, lookup?, he, hother, ih]

theorem mem_without {e : String × α} : e ∈ d.without key ↔ e ∈ d ∧ e.1 ≠ key := by
  simp [without, List.mem_filter]

theorem keys_without (key : String) (d : Dict α) : (d.without key).keys.Sublist d.keys :=
  List.filter_sublist.map _

theorem lookup?_without (h : key ≠ other) : (d.without other).lookup? key = d.lookup? key := by
  induction d with
  | nil => rfl
  | cons e d ih =>
    unfold without at ih ⊢
    by_cases hother : e.1 = other
    · have hkey : ¬e.1 = key := fun he => h (he.symm.trans hother)
      simpa [hother, lookup?, h.symm] using ih
    · simp only [bne_iff_ne, ne_eq, hother, not_false_eq_true, List.filter_cons_of_pos, lookup?, ih]

theorem lookup?_without_self (key : String) (d : Dict α) : (d.without key).lookup? key = none := by
  rw [lookup?_eq_none_iff]
  intro h
  obtain ⟨e, he, hkey⟩ := List.mem_map.mp h
  exact (mem_without.mp he).2 hkey

theorem lookup?_append {e : Dict α} (h : key ∉ e.keys) :
    lookup? key (d ++ e) = d.lookup? key := by
  induction d with
  | nil => exact lookup?_eq_none_iff.mpr h
  | cons f d ih => simp only [List.cons_append, lookup?, ih]

theorem lookup?_append_eq_or (key : String) (d e : Dict α) :
    lookup? key (d ++ e) = (d.lookup? key).or (e.lookup? key) := by
  induction d with
  | nil => rfl
  | cons f d ih =>
    rw [List.cons_append, lookup?, lookup?, ih]
    split_ifs <;> rfl

/-- An entry between others is only found under its own name. -/
theorem lookup?_insert (h : key ≠ other) (before after : Dict α) :
    lookup? key (before ++ (other, v) :: after) = lookup? key (before ++ after) := by
  have hother : lookup? key ((other, v) :: after) = after.lookup? key := by
    simp [lookup?, h.symm]
  rw [lookup?_append_eq_or, lookup?_append_eq_or, hother]

theorem keys_append (d e : Dict α) : keys (d ++ e) = d.keys ++ e.keys := List.map_append

/-- With names that differ, leaving out values leaves out what is looked up. -/
theorem lookup?_filter (hd : d.keys.Nodup) (p : α → Bool) :
    lookup? key (List.filter (fun e => p e.2) d) = (d.lookup? key).filter p := by
  induction d with
  | nil => rfl
  | cons e d ih =>
    obtain ⟨hnot, hd⟩ := List.nodup_cons.mp hd
    by_cases he : e.1 = key
    · have hnone : lookup? key d = none := lookup?_eq_none_iff.mpr (he ▸ hnot)
      by_cases hp : p e.2
      · simp [lookup?, he, hp, Option.filter]
      · simp [lookup?, he, hp, ih hd, hnone, Option.filter]
    · by_cases hp : p e.2
      · simp [lookup?, he, hp, ih hd]
      · simp [lookup?, he, hp, ih hd]

section Pairs
variable {pairs : List (String × α)} {e : String × α}

theorem ofPairs_concat (pairs : List (String × α)) (e : String × α) :
    ofPairs (pairs ++ [e]) = (ofPairs pairs).put e.1 e.2 := by
  rw [ofPairs, List.foldl_concat]
  rfl

theorem mem_of_mem_ofPairs (h : e ∈ ofPairs pairs) : e ∈ pairs := by
  induction pairs using List.reverseRecOn with
  | nil => cases h
  | append_singleton pairs f ih =>
    rw [ofPairs_concat] at h
    rcases mem_put h with rfl | h
    · exact List.mem_concat_self
    · exact List.mem_append_left [f] (ih h)

theorem mem_keys_ofPairs : key ∈ (ofPairs pairs).keys ↔ key ∈ pairs.map Prod.fst := by
  induction pairs using List.reverseRecOn with
  | nil => rfl
  | append_singleton pairs f ih =>
    rw [ofPairs_concat, mem_keys_put, ih]
    simp [or_comm]

theorem nodup_keys_ofPairs (pairs : List (String × α)) : (ofPairs pairs).keys.Nodup := by
  induction pairs using List.reverseRecOn with
  | nil => exact List.nodup_nil
  | append_singleton pairs f ih =>
    rw [ofPairs_concat]
    exact nodup_keys_put ih

end Pairs
end ChatAudit.Dict
