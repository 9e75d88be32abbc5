import ChatAudit.Text.Digit
import Mathlib.Algebra.Group.Nat.Defs
import Mathlib.Tactic.Ring
import Mathlib.Tactic.SplitIfs

/-! Numbers written in decimal spell themselves. -/
namespace ChatAudit.Text

variable {c : Char} {cs : List Char} {n w : Nat}

def digitValue (c : Char) : Nat := c.toNat - '0'.toNat

theorem asciiDigit?_of_isDigit (h : c.isDigit) : asciiDigit? c = some (digitValue c) := by
  have hc : '0' ≤ c ∧ c ≤ '9' := by simpa [Char.isDigit, Char.le_def] using h
  simp [asciiDigit?, digitValue, hc]

theorem mapM_asciiDigit? (h : ∀ c ∈ cs, c.isDigit) :
    cs.mapM asciiDigit? = some (cs.map digitValue) := by
  induction cs with
  | nil => rfl
  | cons c cs ih =>
    rw [List.mapM_cons, asciiDigit?_of_isDigit (h c List.mem_cons_self),
      ih fun d hd => h d (List.mem_cons_of_mem c hd)]
    rfl

theorem ofDigits_map_digitValue (base : Nat) (cs : List Char) :
    ofDigits base (cs.map digitValue) = Nat.ofDigitChars base cs 0 := by
  rw [ofDigits, List.foldl_map, Nat.ofDigitChars_eq_foldl]
  rfl

theorem ofDigits_append (base : Nat) (ds es : List Nat) :
    ofDigits base (ds ++ es) = ofDigits base ds * base ^ es.length + ofDigits base es := by
  have hfrom (n : Nat) : es.foldl (fun n d => base * n + d) n =
      n * base ^ es.length + ofDigits base es := by
    induction es generalizing n with
    | nil => simp [ofDigits]
    | cons e es ih =>
      rw [ofDigits, List.foldl_cons, List.foldl_cons, ih, ih (base * 0 + e), List.length_cons,
        Nat.pow_succ']
      ring
  rw [ofDigits, List.foldl_append, hfrom]
  rfl

theorem isDigit_of_mem_toDigits (h : c ∈ Nat.toDigits 10 n) : c.isDigit :=
  Nat.isDigit_of_mem_toDigits (by decide) (by decide) h

theorem exists_cons_toDigits (n : Nat) : ∃ c cs, Nat.toDigits 10 n = c :: cs ∧ c.isDigit := by
  obtain ⟨c, cs, hcs⟩ := List.exists_cons_of_ne_nil (Nat.toDigits_ne_nil (n := n) (b := 10))
  have hmem : c ∈ Nat.toDigits 10 n := by rw [hcs]; exact List.mem_cons_self
  exact ⟨c, cs, hcs, isDigit_of_mem_toDigits hmem⟩

theorem ofDigits_toDigits (n : Nat) : ofDigits 10 ((Nat.toDigits 10 n).map digitValue) = n := by
  rw [ofDigits_map_digitValue, Nat.ofDigitChars_ten_toDigits]

theorem toList_padded (w n : Nat) : (padded w n).toList =
    List.replicate (w - (Nat.toDigits 10 n).length) '0' ++ Nat.toDigits 10 n := by
  simp [padded]

theorem isDigit_of_mem_padded (h : c ∈ (padded w n).toList) : c.isDigit := by
  rw [toList_padded] at h
  rcases List.mem_append.mp h with hm | hm
  · obtain rfl := List.eq_of_mem_replicate hm
    rfl
  · exact isDigit_of_mem_toDigits hm

theorem length_padded (hw : 0 < w) (h : n < 10 ^ w) : (padded w n).toList.length = w := by
  have hle := (Nat.length_toDigits_le_iff (by decide : 1 < 10) hw).mpr h
  rw [toList_padded, List.length_append, List.length_replicate]
  omega

theorem ofDigitChars_replicate_zero (k : Nat) (cs : List Char) :
    Nat.ofDigitChars 10 (List.replicate k '0' ++ cs) 0 = Nat.ofDigitChars 10 cs 0 := by
  induction k with
  | zero => rfl
  | succ k ih =>
    rw [List.replicate_succ, List.cons_append, Nat.ofDigitChars_cons]
    exact ih

theorem ofDigits_padded (w n : Nat) :
    ofDigits 10 ((padded w n).toList.map digitValue) = n := by
  rw [ofDigits_map_digitValue, toList_padded, ofDigitChars_replicate_zero,
    Nat.ofDigitChars_ten_toDigits]

end ChatAudit.Text
