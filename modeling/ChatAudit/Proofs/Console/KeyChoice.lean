import ChatAudit.Proofs.Chat.Recovery
import ChatAudit.Proofs.Console.Boxes

/-! Boxes for API keys: their labels tell keys apart, so that the key chosen is the key shown. -/
namespace ChatAudit.Console
open Panel

section Labels
variable {a b : ApiKey}

/-- A label from its end: the id stands before the last sign of its kind. -/
theorem reverse_keyLabel (k : ApiKey) : (keyLabel k).toList.reverse =
    ')' :: (toString k.id).toList.reverse ++ '#' :: '(' :: ' ' :: k.name.toList.reverse := by
  simp [keyLabel, -Int.toString_eq_repr]

theorem cutAt_keyLabel (k : ApiKey) : Text.cutAt '#' (keyLabel k).toList.reverse =
    (')' :: (toString k.id).toList.reverse, some ('(' :: ' ' :: k.name.toList.reverse)) := by
  have hid : '#' ∉ ')' :: (toString k.id).toList.reverse := by
    intro h
    rcases List.mem_cons.mp h with h | h
    · cases h
    · exact not_mem_toString (by decide) k.id (List.mem_reverse.mp h)
  rw [reverse_keyLabel, Text.cutAt_append hid]

/-- A label tells name and id, whatever the name looks like. -/
theorem eq_of_keyLabel_eq (h : keyLabel a = keyLabel b) : a.name = b.name ∧ a.id = b.id := by
  have hcut := cutAt_keyLabel a
  rw [h, cutAt_keyLabel b] at hcut
  obtain ⟨hid, hname⟩ := Prod.mk.inj hcut
  constructor
  · have hchars := List.reverse_inj.mp (List.cons.inj (List.cons.inj (Option.some.inj hname)).2).2
    exact (String.toList_inj.mp hchars).symm
  · have hchars := List.reverse_inj.mp (List.cons.inj hid).2
    rw [← Text.integer_toString a.id, ← Text.integer_toString b.id, String.toList_inj.mp hchars]

theorem keyLabel_ne {default : String} (h : default.toList.getLast? ≠ some ')') :
    keyLabel a ≠ default := by
  rintro rfl
  rw [List.getLast?_eq_head?_reverse, reverse_keyLabel] at h
  exact h rfl

end Labels

section Choices
variable {default option : String} {keys : List ApiKey} {id : Option Int} {n : Int}

/-- The labels that a box offers. -/
def labels (default : String) (keys : List ApiKey) : List String := (keyChoices default keys).keys

theorem mem_labels : option ∈ labels default keys ↔
    option = default ∨ ∃ k ∈ keys, keyLabel k = option := by
  rw [labels, keyChoices, Dict.mem_keys_ofPairs]
  simp

/-- What an option of a box stands for: its default for no key, each other one for the keys with
that label, which all have one id. -/
structure StandsFor (default : String) (keys : List ApiKey) (option : String) (id : Option Int) :
    Prop where
  none_iff : id = none ↔ option = default
  exists_key : ∀ n ∈ id, ∃ k ∈ keys, keyLabel k = option ∧ k.id = n
  id_of_label : ∀ k ∈ keys, keyLabel k = option → id = some k.id

theorem mem_keyChoices (h : (option, id) ∈ keyChoices default keys) :
    (option = default ∧ id = none) ∨ ∃ k ∈ keys, keyLabel k = option ∧ id = some k.id := by
  have hpairs := Dict.mem_of_mem_ofPairs h
  rcases List.mem_cons.mp hpairs with heq | hmem
  · exact .inl (Prod.mk.inj heq)
  · obtain ⟨k, hk, heq⟩ := List.mem_map.mp hmem
    obtain ⟨hlabel, hid⟩ := Prod.mk.inj heq
    exact .inr ⟨k, hk, hlabel, hid.symm⟩

theorem standsFor_lookup (hdefault : default.toList.getLast? ≠ some ')')
    (h : option ∈ labels default keys) :
    StandsFor default keys option (((keyChoices default keys).lookup? option).getD none) := by
  obtain ⟨id, hid⟩ := Option.ne_none_iff_exists'.mp
    (mt Dict.lookup?_eq_none_iff.mp (not_not.mpr h))
  rw [hid, Option.getD_some]
  rcases mem_keyChoices (Dict.mem_of_lookup? hid) with ⟨rfl, rfl⟩ | ⟨k, hk, rfl, rfl⟩
  · exact ⟨iff_of_true rfl rfl, nofun, fun k _ hlabel => absurd hlabel (keyLabel_ne hdefault)⟩
  · refine ⟨iff_of_false nofun (keyLabel_ne hdefault), ?_, ?_⟩
    · rintro _ ⟨⟩
      exact ⟨k, hk, rfl, rfl⟩
    · intro k' _ hlabel
      rw [(eq_of_keyLabel_eq hlabel).2]

end Choices

section Boxes
variable {env : Env} {widget default : String} {keys : List ApiKey}

/-- The label that the user chose. -/
def Env.chosenLabel (env : Env) (widget default : String) (keys : List ApiKey) : String :=
  env.chosen widget (labels default keys) 0

theorem chosen_of_mem {choices : List String} {index : Nat} {option : String}
    (hentered : env.entered widget = .str option) (h : option ∈ choices) :
    env.chosen widget choices index = option := by
  rw [Env.chosen, hentered]
  exact if_pos (List.contains_iff_mem.mpr h)

/-- Whether a box for keys offers labels that tell their ids apart, lets the user choose any of
them, and yields the id of the key whose label is chosen. -/
structure ShowsKeys (env : Env) (widget default : String) (keys : List ApiKey)
    (id : Option Int) : Prop where
  offers_iff : ∀ option, option ∈ labels default keys ↔
    option = default ∨ ∃ k ∈ keys, keyLabel k = option
  nodup : (labels default keys).Nodup
  apart : ∀ a b, keyLabel a = keyLabel b → a.id = b.id
  ne_default : ∀ k, keyLabel k ≠ default
  offered : env.chosenLabel widget default keys ∈ labels default keys
  free : ∀ option ∈ labels default keys, env.entered widget = .str option →
    env.chosenLabel widget default keys = option
  standsFor : StandsFor default keys (env.chosenLabel widget default keys) id

theorem showsKeys (env : Env) (widget : String) (keys : List ApiKey)
    (hdefault : default.toList.getLast? ≠ some ')') :
    ShowsKeys env widget default keys (env.chosenKey widget default keys) := by
  have hsome : 0 < (labels default keys).length :=
    List.length_pos_of_mem (mem_labels.mpr (.inl rfl))
  have hoffered : env.chosenLabel widget default keys ∈ labels default keys :=
    Env.chosen_mem hsome
  exact {
    offers_iff := fun _ => mem_labels
    nodup := Dict.nodup_keys_ofPairs _
    apart := fun _ _ h => (eq_of_keyLabel_eq h).2
    ne_default := fun _ => keyLabel_ne hdefault
    offered := hoffered
    free := fun _ h hentered => chosen_of_mem hentered h
    standsFor := standsFor_lookup hdefault hoffered }

/-- The box of the sidebar and that of the assistant show the labels of their keys, and yield the id
of the key whose label is chosen. No label is shared by keys of two ids or is that of the default,
and keys whose id no active key has are neither offered to the assistant nor chosen for it. -/
theorem key_shown_is_key_chosen (env : Env) (s : Screen) (keys : List ApiKey)
    (defaultRange widget : String) :
    (∃ filters t id, exec (sidebar keys defaultRange) env s = (.ok filters, t) ∧
      t.events.head? = some (choiceBox "sidebar" "API key" (labels "All keys" keys)) ∧
      filters.lookup? "api_key_id" = id.map Json.int ∧
      ShowsKeys env "API key" "All keys" keys id) ∧
    ∃ t id, exec (chooseAssistantKey keys widget) env s = (.ok id, t) ∧
      t.events.head? = some (choiceBox "" "AI API key"
        (labels "Server default" (keys.filter (·.status == "active"))) widget) ∧
      ShowsKeys env widget "Server default" (keys.filter (·.status == "active")) id ∧
      ∀ k ∈ keys, (∀ a ∈ keys, a.id = k.id → a.status ≠ "active") →
        keyLabel k ∉ labels "Server default" (keys.filter (·.status == "active")) ∧
          id ≠ some k.id := by
  constructor
  · refine ⟨_, _, (env.selection keys defaultRange).keyId, exec_sidebar_eq keys defaultRange, rfl,
      (env.selection keys defaultRange).lookup?_setIds.2, showsKeys env "API key" keys (by decide)⟩
  · have hshows := showsKeys env widget (keys.filter (·.status == "active"))
      (by decide : "Server default".toList.getLast? ≠ some ')')
    refine ⟨_, _, exec_chooseKey _ _ _ _ _, ?_, hshows, fun k hk hidle => ?_⟩
    · rw [Screen.events_remembered]
      rfl
    · have hnone {a : ApiKey} (ha : a ∈ keys.filter (·.status == "active")) : a.id ≠ k.id := by
        obtain ⟨hmem, hactive⟩ := List.mem_filter.mp ha
        exact fun hid => hidle a hmem hid (beq_iff_eq.mp hactive)
      constructor
      · intro hoffered
        rcases (hshows.offers_iff _).mp hoffered with hdefault | ⟨a, ha, hlabel⟩
        · exact hshows.ne_default k hdefault
        · exact hnone ha (hshows.apart a k hlabel)
      · intro hid
        obtain ⟨a, ha, -, hid⟩ := hshows.standsFor.exists_key k.id hid
        exact hnone ha hid

end Boxes
end ChatAudit.Console
