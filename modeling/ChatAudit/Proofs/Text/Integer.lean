import ChatAudit.Proofs.Text.Digits
import ChatAudit.Text.Integer
import Mathlib.Data.List.DropRight

/-! Which texts people type for a whole number, and for which number. -/
namespace ChatAudit.Text

/-- Whether a text is digits of any script, `k` of them, that spell `n`. Two of them may have an
underscore between them. -/
inductive Numeral : (cs : List Char) → (k n : Nat) → Prop
  | digit {c : Char} {d : Nat} (hd : digitValue? c = some d) : Numeral [c] 1 d
  | more {cs sep : List Char} {c : Char} {k n d : Nat} (h : Numeral cs k n)
    (hsep : sep ∈ [[], ['_']]) (hd : digitValue? c = some d) :
    Numeral (cs ++ (sep ++ [c])) (k + 1) (10 * n + d)

/-- What a sign makes of a number. -/
inductive Signs : List Char → Nat → Int → Prop
  | none (n : Nat) : Signs [] n n
  | plus (n : Nat) : Signs ['+'] n n
  | minus (n : Nat) : Signs ['-'] n (-n)

/-- Whether a text stands for the number `n` and has `k` digits, apart from the blanks around it. -/
def Denotes (s : String) (k : Nat) (n : Int) : Prop :=
  ∃ sign body m, (strip s).toList = sign ++ body ∧ Numeral body k m ∧ Signs sign m n

section Digits
variable {c : Char} {cs sep rest : List Char} {k n d : Nat} {ds : List Nat}

theorem ne_of_digitValue? (h : digitValue? c = some d) : c ≠ '_' ∧ c ≠ '-' ∧ c ≠ '+' := by
  have hunderscore : digitValue? '_' = none := by decide +kernel
  have hminus : digitValue? '-' = none := by decide +kernel
  have hplus : digitValue? '+' = none := by decide +kernel
  refine ⟨?_, ?_, ?_⟩ <;> rintro rfl
  · cases h.symm.trans hunderscore
  · cases h.symm.trans hminus
  · cases h.symm.trans hplus

theorem Numeral.head? (h : Numeral cs k n) : ∃ c ∈ cs.head?, c ≠ '_' ∧ c ≠ '-' ∧ c ≠ '+' := by
  induction h with
  | digit hd => exact ⟨_, rfl, ne_of_digitValue? hd⟩
  | more _ _ _ ih =>
    obtain ⟨c, hc, hne⟩ := ih
    exact ⟨c, List.mem_head?_append_of_mem_head? hc, hne⟩

/-- A digit in front counts as often as the places behind it say. -/
theorem Numeral.cons (hd : digitValue? c = some d) (hsep : sep ∈ [[], ['_']])
    (h : Numeral cs k n) : Numeral (c :: (sep ++ cs)) (k + 1) (d * 10 ^ k + n) := by
  induction h with
  | @digit e m hm =>
    have hvalue : d * 10 ^ 1 + m = 10 * d + m := by ring
    rw [hvalue]
    exact .more (.digit hd) hsep hm
  | @more cs sep' e k n m _ hsep' hm ih =>
    have hvalue : d * 10 ^ (k + 1) + (10 * n + m) = 10 * (d * 10 ^ k + n) + m := by ring
    rw [hvalue, ← List.append_assoc, ← List.cons_append]
    exact .more ih hsep' hm

theorem ofDigits_cons (d : Nat) (ds : List Nat) :
    ofDigits 10 (d :: ds) = d * 10 ^ ds.length + ofDigits 10 ds := by
  have hone : ofDigits 10 [d] = d := by simp [ofDigits]
  rw [← List.singleton_append, ofDigits_append, hone]

theorem consDigit_eq_some_iff {rest : List Char} :
    (do return (← digitValue? c) :: (← digitGroups? rest)) = some ds ↔
      ∃ d es, digitValue? c = some d ∧ digitGroups? rest = some es ∧ d :: es = ds := by
  simp [Option.bind_eq_some_iff]

theorem digitGroups?_of_other (hone : cs = [] → False) (hsep : ∀ rest, cs = '_' :: rest → False) :
    digitGroups? (c :: cs) = do return (← digitValue? c) :: (← digitGroups? cs) := by
  rw [digitGroups?]
  · exact hone
  · exact hsep

theorem numeral_of_digitGroups? (h : digitGroups? cs = some ds) :
    Numeral cs ds.length (ofDigits 10 ds) := by
  induction cs using digitGroups?.induct generalizing ds with
  | case1 => cases h
  | case2 c =>
    obtain ⟨d, hd, rfl⟩ := Option.map_eq_some_iff.mp h
    simpa [ofDigits] using Numeral.digit hd
  | case3 c rest ih =>
    obtain ⟨d, es, hd, hes, rfl⟩ := consDigit_eq_some_iff.mp h
    rw [ofDigits_cons]
    exact .cons hd (by simp : ['_'] ∈ [[], ['_']]) (ih hes)
  | case4 c rest hone hsep ih =>
    rw [digitGroups?_of_other hone hsep] at h
    obtain ⟨d, es, hd, hes, rfl⟩ := consDigit_eq_some_iff.mp h
    rw [ofDigits_cons]
    exact .cons hd (by simp : [] ∈ [[], ['_']]) (ih hes)

/-- Digits are read one after the other, with or without a separator. -/
theorem digitGroups?_cons (hd : digitValue? c = some d) (hsep : sep ∈ [[], ['_']])
    (h : digitGroups? cs = some ds) : digitGroups? (c :: (sep ++ cs)) = some (d :: ds) := by
  have hall := consDigit_eq_some_iff.mpr ⟨d, ds, hd, h, rfl⟩
  rcases List.mem_cons.mp hsep with rfl | hsep
  · obtain ⟨e, he, hunderscore, -⟩ := (numeral_of_digitGroups? h).head?
    obtain ⟨rest, rfl⟩ := List.head?_eq_some_iff.mp he
    have hne : e :: rest = [] → False := nofun
    have hother : ∀ r, e :: rest = '_' :: r → False :=
      fun _ heq => hunderscore (List.cons.inj heq).1
    exact (digitGroups?_of_other hne hother).trans hall
  · obtain rfl := List.mem_singleton.mp hsep
    exact hall

theorem digitGroups?_concat (hd : digitValue? c = some d) (hsep : sep ∈ [[], ['_']])
    (h : digitGroups? cs = some ds) : digitGroups? (cs ++ (sep ++ [c])) = some (ds ++ [d]) := by
  induction cs using digitGroups?.induct generalizing ds with
  | case1 => cases h
  | case2 e =>
    obtain ⟨m, hm, rfl⟩ := Option.map_eq_some_iff.mp h
    have hlast : digitGroups? [c] = some [d] := congrArg (Option.map ([·])) hd
    have hall : digitGroups? (e :: (sep ++ [c])) = some [m, d] := digitGroups?_cons hm hsep hlast
    exact hall
  | case3 e rest ih =>
    obtain ⟨m, es, hm, hes, rfl⟩ := consDigit_eq_some_iff.mp h
    have hall : digitGroups? (e :: (['_'] ++ (rest ++ (sep ++ [c])))) = some (m :: (es ++ [d])) :=
      digitGroups?_cons hm (by simp) (ih hes)
    exact hall
  | case4 e rest hone hother ih =>
    rw [digitGroups?_of_other hone hother] at h
    obtain ⟨m, es, hm, hes, rfl⟩ := consDigit_eq_some_iff.mp h
    have hall : digitGroups? (e :: ([] ++ (rest ++ (sep ++ [c])))) = some (m :: (es ++ [d])) :=
      digitGroups?_cons hm (by simp) (ih hes)
    exact hall

theorem Numeral.exists_digits (h : Numeral cs k n) :
    ∃ ds, digitGroups? cs = some ds ∧ ds.length = k ∧ ofDigits 10 ds = n := by
  induction h with
  | @digit c d hd => exact ⟨[d], congrArg (Option.map ([·])) hd, rfl, by simp [ofDigits]⟩
  | @more cs sep c k n d _ hsep hd ih =>
    obtain ⟨ds, hds, rfl, rfl⟩ := ih
    have hone : ofDigits 10 [d] = d := by simp [ofDigits]
    refine ⟨ds ++ [d], digitGroups?_concat hd hsep hds, List.length_append, ?_⟩
    rw [ofDigits_append, hone, List.length_singleton, pow_one, Nat.mul_comm]

end Digits

section Signs
variable {s : String} {cs body : List Char} {k m : Nat} {n : Int}

theorem splitSign_of_numeral (h : Numeral body k m) : splitSign body = (false, body) := by
  obtain ⟨c, hc, -, hminus, hplus⟩ := h.head?
  obtain ⟨rest, rfl⟩ := List.head?_eq_some_iff.mp hc
  unfold splitSign
  split
  · next heq => exact absurd (List.cons.inj heq).1 hminus
  · next heq => exact absurd (List.cons.inj heq).1 hplus
  · rfl

/-- A sign and the number behind it. -/
theorem signs_splitSign (cs : List Char) (m : Nat) : ∃ sign, cs = sign ++ (splitSign cs).2 ∧
    Signs sign m (if (splitSign cs).1 then -(m : Int) else m) := by
  unfold splitSign
  split
  · exact ⟨['-'], rfl, .minus m⟩
  · exact ⟨['+'], rfl, .plus m⟩
  · exact ⟨[], rfl, .none m⟩

theorem splitSign_of_signs {sign : List Char} (hbody : Numeral body k m) (h : Signs sign m n) :
    (splitSign (sign ++ body)).2 = body ∧
      n = if (splitSign (sign ++ body)).1 then -(m : Int) else m := by
  cases h with
  | none => exact (splitSign_of_numeral hbody).symm ▸ ⟨rfl, rfl⟩
  | plus => exact ⟨rfl, rfl⟩
  | minus => exact ⟨rfl, rfl⟩

theorem denotes_iff : Denotes s k n ↔ ∃ ds,
    digitGroups? (splitSign (stripBy isBlank s.toList)).2 = some ds ∧ ds.length = k ∧
      (if (splitSign (stripBy isBlank s.toList)).1 then -(ofDigits 10 ds : Int)
        else ofDigits 10 ds) = n := by
  have hstrip : (strip s).toList = stripBy isBlank s.toList := String.toList_ofList
  unfold Denotes
  rw [hstrip]
  constructor
  · rintro ⟨sign, body, m, hbody, hnumeral, hsign⟩
    obtain ⟨hsplit, rfl⟩ := splitSign_of_signs hnumeral hsign
    obtain ⟨ds, hds, rfl, rfl⟩ := hnumeral.exists_digits
    exact ⟨ds, by rw [hbody, hsplit, hds], rfl, by rw [hbody]⟩
  · rintro ⟨ds, hds, rfl, rfl⟩
    obtain ⟨sign, hsplit, hsign⟩ := signs_splitSign (stripBy isBlank s.toList) (ofDigits 10 ds)
    exact ⟨sign, _, _, hsplit, numeral_of_digitGroups? hds, hsign⟩

theorem Denotes.unique {j : Nat} {i : Int} (h : Denotes s k n) (h' : Denotes s j i) :
    k = j ∧ n = i := by
  obtain ⟨ds, hds, rfl, rfl⟩ := denotes_iff.mp h
  obtain ⟨es, hes, rfl, rfl⟩ := denotes_iff.mp h'
  obtain rfl := Option.some.inj (hds.symm.trans hes)
  exact ⟨rfl, rfl⟩

/-- A text is read as a number just if it stands for that number, with no more digits than are
read. -/
theorem readInteger_eq_ok_iff : readInteger s = .ok n ↔ ∃ k ≤ maxDigits, Denotes s k n := by
  simp only [denotes_iff]
  rw [readInteger]
  dsimp only
  constructor
  · intro h
    cases hds : digitGroups? (splitSign (stripBy isBlank s.toList)).2 with
    | none => rw [hds] at h; cases h
    | some ds =>
      rw [hds] at h
      dsimp only at h
      by_cases hlong : maxDigits < ds.length
      · rw [if_pos hlong] at h
        cases h
      · rw [if_neg hlong] at h
        exact ⟨ds.length, Nat.le_of_not_lt hlong, ds, rfl, rfl, Except.ok.inj h⟩
  · rintro ⟨k, hk, ds, hds, rfl, rfl⟩
    rw [hds]
    dsimp only
    rw [if_neg (Nat.not_lt.mpr hk)]

end Signs

section Blanks

theorem stripBy_stripBy (p : Char → Bool) (cs : List Char) :
    stripBy p (stripBy p cs) = stripBy p cs := by
  have hfirst : List.dropWhile p (stripBy p cs) = stripBy p cs := by
    rw [List.dropWhile_eq_self_iff]
    intro hpos
    have hprefix : stripBy p cs <+: cs.dropWhile p := List.rdropWhile_prefix p _
    have hhead := hprefix.getElem hpos
    rw [hhead]
    exact List.dropWhile_eq_self_iff.mp (List.dropWhile_idempotent p cs) _
  have hlast : List.rdropWhile p (stripBy p cs) = stripBy p cs := List.rdropWhile_idempotent p _
  calc stripBy p (stripBy p cs)
      = List.rdropWhile p (List.dropWhile p (stripBy p cs)) := rfl
    _ = stripBy p cs := by rw [hfirst, hlast]

theorem strip_strip (s : String) : strip (strip s) = strip s := by
  rw [strip, strip, String.toList_ofList, stripBy_stripBy]

end Blanks
end ChatAudit.Text
