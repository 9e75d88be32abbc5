import ChatAudit.Text.Split
import Mathlib.Data.List.Basic

/-! Splitting a text at a character and joining the parts again. -/
namespace ChatAudit.Text

variable {c : Char} {cs : List Char}

@[simp] theorem splitOn_nil (c : Char) : splitOn c [] = [[]] := rfl

@[simp] theorem splitOn_cons_self (c : Char) (cs : List Char) :
    splitOn c (c :: cs) = [] :: splitOn c cs := by
  simp [splitOn]

theorem splitOn_ne_nil (c : Char) (cs : List Char) : splitOn c cs ≠ [] := by
  cases cs with
  | nil => simp
  | cons d cs =>
    unfold splitOn
    split_ifs
    · simp
    · split <;> simp

theorem splitOn_cons_of_ne {d : Char} (h : d ≠ c) {p : List Char} {ps : List (List Char)}
    (hs : splitOn c cs = p :: ps) : splitOn c (d :: cs) = (d :: p) :: ps := by
  simp [splitOn, h, hs]

/-- The parts of a text with another text in front that does not hold the character. -/
theorem splitOn_append_of_not_mem {ds p : List Char} {ps : List (List Char)} (h : c ∉ ds)
    (hs : splitOn c cs = p :: ps) : splitOn c (ds ++ cs) = (ds ++ p) :: ps := by
  induction ds with
  | nil => exact hs
  | cons d ds ih =>
    have hd : d ≠ c := fun hdc => h (hdc ▸ List.mem_cons_self)
    exact splitOn_cons_of_ne hd (ih fun hm => h (List.mem_cons_of_mem d hm))

theorem splitOn_of_not_mem (h : c ∉ cs) : splitOn c cs = [cs] := by
  simpa using splitOn_append_of_not_mem h (splitOn_nil c)

theorem splitOn_append_cons (c : Char) (cs ds : List Char) :
    splitOn c (cs ++ c :: ds) = splitOn c cs ++ splitOn c ds := by
  induction cs with
  | nil => simp
  | cons d cs ih =>
    by_cases hd : d = c
    · subst hd
      simp [ih]
    · obtain ⟨p, ps, hs⟩ := List.exists_cons_of_ne_nil (splitOn_ne_nil c cs)
      have hall : splitOn c (cs ++ c :: ds) = p :: (ps ++ splitOn c ds) := by rw [ih, hs]; rfl
      rw [List.cons_append, splitOn_cons_of_ne hd hall, splitOn_cons_of_ne hd hs]
      rfl

theorem not_mem_of_mem_splitOn {p : List Char} (h : p ∈ splitOn c cs) : c ∉ p := by
  induction cs generalizing p with
  | nil => simp_all
  | cons d cs ih =>
    by_cases hd : d = c
    · subst hd
      rw [splitOn_cons_self] at h
      rcases List.mem_cons.mp h with rfl | hm
      · simp
      · exact ih hm
    · obtain ⟨q, qs, hs⟩ := List.exists_cons_of_ne_nil (splitOn_ne_nil c cs)
      rw [splitOn_cons_of_ne hd hs] at h
      rw [hs] at ih
      rcases List.mem_cons.mp h with rfl | hm
      · simpa [Ne.symm hd] using ih List.mem_cons_self
      · exact ih (List.mem_cons_of_mem q hm)

/-- Parts may be rewritten one character at a time if no other character turns into `c`. -/
theorem splitOn_flatMap {f : Char → List Char} (hc : f c = [c]) (hf : ∀ d, d ≠ c → c ∉ f d) :
    splitOn c (cs.flatMap f) = (splitOn c cs).map (·.flatMap f) := by
  induction cs with
  | nil => rfl
  | cons d cs ih =>
    by_cases hd : d = c
    · subst hd
      simp [hc, ih]
    · obtain ⟨p, ps, hs⟩ := List.exists_cons_of_ne_nil (splitOn_ne_nil c cs)
      rw [hs] at ih
      rw [List.flatMap_cons, splitOn_append_of_not_mem (hf d hd) ih, splitOn_cons_of_ne hd hs]
      rfl

theorem joinWith_cons (c : Char) (p : List Char) {ps : List (List Char)} (h : ps ≠ []) :
    joinWith c (p :: ps) = p ++ c :: joinWith c ps := by
  cases ps with
  | nil => exact absurd rfl h
  | cons q ps => rfl

theorem suffix_joinWith (c : Char) (ps : List (List Char)) {qs : List (List Char)} (h : qs ≠ []) :
    joinWith c qs <:+ joinWith c (ps ++ qs) := by
  induction ps with
  | nil => exact List.suffix_refl _
  | cons p ps ih =>
    rw [List.cons_append, joinWith_cons c p (by simp [h])]
    exact ih.trans ((List.suffix_cons c _).trans (List.suffix_append p _))

theorem joinWith_splitOn (c : Char) (cs : List Char) : joinWith c (splitOn c cs) = cs := by
  induction cs with
  | nil => rfl
  | cons d cs ih =>
    by_cases hd : d = c
    · subst hd
      rw [splitOn_cons_self, joinWith_cons d [] (splitOn_ne_nil d cs), ih]
      rfl
    · obtain ⟨p, ps, hs⟩ := List.exists_cons_of_ne_nil (splitOn_ne_nil c cs)
      rw [splitOn_cons_of_ne hd hs]
      rw [hs] at ih
      cases ps with
      | nil => exact congrArg (d :: ·) ih
      | cons q ps => exact congrArg (d :: ·) ih

theorem splitOn_joinWith {ps : List (List Char)} (hne : ps ≠ []) (h : ∀ p ∈ ps, c ∉ p) :
    splitOn c (joinWith c ps) = ps := by
  induction ps with
  | nil => exact absurd rfl hne
  | cons p ps ih =>
    have hp : c ∉ p := h p List.mem_cons_self
    cases ps with
    | nil => exact splitOn_of_not_mem hp
    | cons q ps =>
      have hrest := ih (List.cons_ne_nil q ps) fun p hm => h p (List.mem_cons_of_mem _ hm)
      rw [joinWith_cons c p (List.cons_ne_nil q ps), splitOn_append_cons, splitOn_of_not_mem hp,
        hrest]
      rfl

theorem cutAt_of_not_mem (h : c ∉ cs) : cutAt c cs = (cs, none) := by
  induction cs with
  | nil => rfl
  | cons d cs ih =>
    have hd : d ≠ c := fun hdc => h (hdc ▸ List.mem_cons_self)
    simp [cutAt, hd, ih fun hm => h (List.mem_cons_of_mem d hm)]

theorem cutAt_append (h : c ∉ cs) (ds : List Char) : cutAt c (cs ++ c :: ds) = (cs, some ds) := by
  induction cs with
  | nil => simp [cutAt]
  | cons d cs ih =>
    have hd : d ≠ c := fun hdc => h (hdc ▸ List.mem_cons_self)
    simp [cutAt, hd, ih fun hm => h (List.mem_cons_of_mem d hm)]

theorem occurs_iff {word cs : List Char} : occurs word cs = true ↔ word <:+: cs := by
  induction cs with
  | nil => rw [occurs, List.isEmpty_iff, List.infix_nil]
  | cons c cs ih =>
    rw [occurs, Bool.or_eq_true, ih, List.isPrefixOf_iff_prefix, List.infix_cons_iff]

end ChatAudit.Text
