import ChatAudit.Text.MarkTable
import ChatAudit.Text.SpellingTable

/-! Letters and their marks, in one character where there is one. -/
namespace ChatAudit.Text

/-- The letter and the marks that `c` stands for. -/
def spell (c : Char) : List Char :=
  match spellings.find? fun e => e.1 == c.toNat with
  | some e => e.2.map Char.ofNat
  | none => [c]

/-- The one character for a letter and its marks. -/
def unspell? : List Char → Option Char
  | [c] => some c
  | cs => (spellings.find? fun e => e.2 == cs.map Char.toNat).map fun e => Char.ofNat e.1

/-- The place among the marks of a letter; zero for what keeps its place. -/
def markOrder (c : Char) : Nat :=
  match markOrders.find? fun e => e.1 ≤ c.toNat && c.toNat ≤ e.2.1 with
  | some e => e.2.2
  | none => 0

/-- `c` in front, but behind the marks that stand before it. -/
def insertMark (c : Char) : List Char → List Char
  | [] => [c]
  | d :: r =>
    if 0 < markOrder d && markOrder d < markOrder c then d :: insertMark c r else c :: d :: r

/-- The marks of each letter in their order. -/
def sortMarks (cs : List Char) : List Char := cs.foldr insertMark []

/-- `base` is a letter with the marks that it takes up, `held` those after it that it does not,
latest first. A mark in between that does not stand before the next one keeps it off. -/
def composeFrom (base held : List Char) : List Char → List Char
  | [] => (unspell? base).toList ++ held.reverse
  | d :: r =>
    let reaches := held.head?.elim true fun m => markOrder m < markOrder d
    if !base.isEmpty && reaches && (unspell? (base ++ [d])).isSome then
      composeFrom (base ++ [d]) held r
    else if markOrder d = 0 then
      (unspell? base).toList ++ held.reverse ++ composeFrom [d] [] r
    else composeFrom base (d :: held) r

def compose (cs : List Char) : List Char := composeFrom [] [] (sortMarks (cs.flatMap spell))

end ChatAudit.Text
