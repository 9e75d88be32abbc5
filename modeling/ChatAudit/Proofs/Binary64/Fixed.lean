import ChatAudit.Proofs.Binary64.Exact
import ChatAudit.Proofs.Json.Token

/-! Decimal texts as the numbers that they spell, and how far these are from what was written. -/
namespace ChatAudit.Binary64
open Text

variable {negative : Bool} {size : ℚ} {x : Binary64} {places : Nat} {c : Char} {cs : List Char}

def withSign (negative : Bool) (size : ℚ) : ℚ := if negative then -size else size

/-- The number that digits spell, with or without a point between them. -/
def magnitude? (cs : List Char) : Option ℚ :=
  match digitRun cs with
  | ([], _) => none
  | (whole, []) => some (ofDigits 10 whole)
  | (whole, '.' :: rest) =>
    match digitRun rest with
    | ([], _) => none
    | (fraction, []) => some (ofDigits 10 (whole ++ fraction) / 10 ^ fraction.length)
    | _ => none
  | _ => none

/-- The number that a text spells in decimal, exactly. -/
def decimal? (cs : List Char) : Option ℚ :=
  let (negative, body) := splitSign cs
  (magnitude? body).map (withSign negative)

section Reading

theorem magnitude?_whole (hcs : ∀ c ∈ cs, c.isDigit) (hne : cs ≠ []) :
    magnitude? cs = some (ofDigits 10 (cs.map digitValue) : ℚ) := by
  obtain ⟨c, rest, rfl⟩ := List.exists_cons_of_ne_nil hne
  simp only [magnitude?, Timestamp.digitRun_of_digits hcs, List.map_cons]

/-- A point moves the digits in front of it up by as many places as there are behind it. -/
theorem magnitude?_point {ds : List Char} (hcs : ∀ c ∈ cs, c.isDigit) (hne : cs ≠ [])
    (hds : ∀ d ∈ ds, d.isDigit) (hplaces : ds.length = places) (hpos : 0 < places) :
    magnitude? (cs ++ '.' :: ds) = some (((ofDigits 10 (cs.map digitValue) * 10 ^ places +
      ofDigits 10 (ds.map digitValue) : Nat) : ℚ) / 10 ^ places) := by
  obtain ⟨c, front, rfl⟩ := List.exists_cons_of_ne_nil hne
  obtain ⟨d, back, rfl⟩ := List.exists_cons_of_length_pos (hplaces ▸ hpos)
  have hstop : ∀ e ∈ ('.' :: d :: back).head?, e.isDigit = false := by
    rintro e ⟨⟩
    rfl
  rw [magnitude?, Timestamp.digitRun_append hcs hstop]
  simp only [List.map_cons, Timestamp.digitRun_of_digits hds]
  rw [ofDigits_append, ← List.map_cons, ← List.map_cons, List.length_map, hplaces]

theorem magnitude?_toDigits (n : Nat) : magnitude? (Nat.toDigits 10 n) = some (n : ℚ) := by
  rw [magnitude?_whole (fun _ => isDigit_of_mem_toDigits) Nat.toDigits_ne_nil, ofDigits_toDigits]

theorem magnitude?_fixed (hplaces : 0 < places) (t : Nat) : magnitude?
    (Nat.toDigits 10 (t / 10 ^ places) ++ '.' :: (padded places (t % 10 ^ places)).toList) =
      some ((t : ℚ) / 10 ^ places) := by
  have hlength := length_padded hplaces (Nat.mod_lt t (by positivity : 0 < 10 ^ places))
  rw [magnitude?_point (fun _ => isDigit_of_mem_toDigits) Nat.toDigits_ne_nil
    (fun _ => isDigit_of_mem_padded) hlength hplaces, ofDigits_toDigits, ofDigits_padded,
    Nat.div_add_mod']

/-- A sign in front of digits is read as the sign of what they spell. -/
theorem decimal?_signed {s : String} (h : ∃ c rest, s.toList = c :: rest ∧ c.isDigit) :
    decimal? (signed negative s).toList = (magnitude? s.toList).map (withSign negative) := by
  obtain ⟨c, rest, hs, hc⟩ := h
  have hsplit : splitSign (c :: rest) = (false, c :: rest) := by
    unfold splitSign
    split
    · next heq =>
      obtain ⟨rfl, -⟩ := List.cons.inj heq
      cases hc
    · next heq =>
      obtain ⟨rfl, -⟩ := List.cons.inj heq
      cases hc
    · rfl
  cases negative with
  | false =>
    rw [decimal?, signed, if_neg Bool.false_ne_true, hs, hsplit]
  | true =>
    rw [decimal?, signed, if_pos rfl, String.toList_append]
    rfl

end Reading

section Signs

theorem withSign_sub (negative : Bool) (p q : ℚ) :
    withSign negative p - withSign negative q = withSign negative (p - q) := by
  cases negative with
  | false => rfl
  | true => simp only [withSign, if_true]; ring

theorem withSign_div (negative : Bool) (p q : ℚ) :
    withSign negative (p / q) = withSign negative p / q := by
  cases negative with
  | false => rfl
  | true => exact (neg_div q p).symm

theorem abs_withSign (negative : Bool) (q : ℚ) : |withSign negative q| = |q| := by
  cases negative with
  | false => rfl
  | true => exact abs_neg q

theorem withSign_natAbs (n : Int) : withSign (decide (n < 0)) n.natAbs = n := by
  rw [Nat.cast_natAbs, Int.cast_abs, withSign]
  by_cases hn : n < 0
  · have hneg : (n : ℚ) < 0 := by exact_mod_cast hn
    rw [if_pos (decide_eq_true hn), abs_of_neg hneg, neg_neg]
  · have hnonneg : (0 : ℚ) ≤ n := by exact_mod_cast Int.not_lt.mp hn
    rw [if_neg (by simpa using hn), abs_of_nonneg hnonneg]

end Signs

section Texts

theorem toString_eq_signed (n : Int) :
    toString n = signed (decide (n < 0)) (toString n.natAbs) := by
  rw [← String.toList_inj, Json.toList_toString, signed]
  by_cases hn : n < 0
  · simp [hn, Int.not_le.mpr hn]
  · simp [hn, Int.not_lt.mp hn]

/-- A whole number is spelled in full. -/
theorem decimal?_toString (n : Int) : decimal? (toString n).toList = some (n : ℚ) := by
  have htoList : (toString n.natAbs).toList = Nat.toDigits 10 n.natAbs := by simp
  have hdigit := exists_cons_toDigits n.natAbs
  rw [← htoList] at hdigit
  rw [toString_eq_signed, decimal?_signed hdigit, htoList, magnitude?_toDigits, Option.map_some,
    withSign_natAbs]

theorem not_mem_formatFixed (h : Holds negative size x) (hplaces : 0 < places)
    (hc : c.isDigit = false) (hmark : c ∉ ['-', '.']) : c ∉ (x.formatFixed places).toList := by
  obtain ⟨t, htext, -⟩ := h.exists_formatFixed hplaces.ne'
  have hwhole : c ∉ Nat.toDigits 10 (t / 10 ^ places) := fun hm =>
    absurd (isDigit_of_mem_toDigits hm) (by simp [hc])
  have hfraction : c ∉ (padded places (t % 10 ^ places)).toList := fun hm =>
    absurd (isDigit_of_mem_padded hm) (by simp [hc])
  simp only [List.mem_cons, List.not_mem_nil, or_false, not_or] at hmark
  rw [htext]
  cases negative <;> simp [signed, hwhole, hfraction, hmark]

/-- A double written with places after its point spells a number of units of the last one, which is
nearest to its size. -/
theorem Holds.exists_decimal (h : Holds negative size x) (hplaces : 0 < places) :
    ∃ t : Nat, decimal? (x.formatFixed places).toList = some (withSign negative (t / 10 ^ places)) ∧
      |(t : ℚ) - size * 10 ^ places| ≤ 1 / 2 ∧
      ∀ n, n % 2 = 0 → (n ≤ t ↔ (n : ℚ) ≤ size * 10 ^ places + 1 / 2) := by
  obtain ⟨t, htext, herror, heven⟩ := h.exists_formatFixed hplaces.ne'
  refine ⟨t, ?_, herror, heven⟩
  have htoList : (toString (t / 10 ^ places) ++ "." ++ padded places (t % 10 ^ places)).toList =
      Nat.toDigits 10 (t / 10 ^ places) ++ '.' :: (padded places (t % 10 ^ places)).toList := by
    simp
  have hdigit : ∃ c rest, (toString (t / 10 ^ places) ++ "." ++
      padded places (t % 10 ^ places)).toList = c :: rest ∧ c.isDigit := by
    obtain ⟨c, cs, hcs, hc⟩ := exists_cons_toDigits (t / 10 ^ places)
    exact ⟨c, _, by rw [htoList, hcs, List.cons_append], hc⟩
  rw [htext, decimal?_signed hdigit, htoList, magnitude?_fixed hplaces]
  rfl

end Texts
end ChatAudit.Binary64
