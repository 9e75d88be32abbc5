import ChatAudit.Json.Display
import Mathlib.Tactic.SplitIfs

/-! Values that are present are never displayed as an empty text. -/
namespace ChatAudit

namespace Binary64

theorem place_ne_nil (l : Layout) (ds : List Char) (p : Int) : l.place ds p ≠ [] := by
  unfold Layout.place
  split_ifs <;> simp

theorem signed_ne_empty (negative : Bool) {s : String} (h : s ≠ "") : signed negative s ≠ "" := by
  unfold signed
  split_ifs
  · simp
  · exact h

theorem format_ne_empty (x : Binary64) : x.format ≠ "" := by
  cases x with
  | nan => decide
  | infinite negative => exact signed_ne_empty negative (by decide)
  | finite negative m e =>
    cases m with
    | zero => exact signed_ne_empty negative (by decide)
    | succ m =>
      apply signed_ne_empty
      rw [ne_eq, ← String.toList_inj, String.toList_ofList]
      exact place_ne_nil _ _ _

end Binary64

namespace Json

theorem toString_ne_empty (n : Int) : toString n ≠ "" := by
  rw [Int.toString_eq_repr, Int.repr_eq_if]
  split_ifs
  · exact Nat.repr_ne_empty
  · simp

theorem display_ne_empty {v : Json} (h : v.present) : v.display ≠ "" := by
  cases v with
  | null => cases h
  | bool b => cases b <;> decide
  | int n => exact toString_ne_empty n
  | float x => exact x.format_ne_empty
  | str s => exact bne_iff_ne.mp h
  | arr vs => simp [display, literal]
  | obj es => simp [display, literal]

end Json
end ChatAudit
