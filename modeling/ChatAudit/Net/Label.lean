import ChatAudit.Net.LabelTable
import ChatAudit.Net.Punycode
import ChatAudit.Text.Case
import ChatAudit.Text.Composition

/-! Names of hosts in any script, label by label. -/
namespace ChatAudit.Label
open Text

/-- Whether the sign asks the consonant before it to drop its vowel. -/
def isVirama (c : Char) : Bool := markOrder c == 9

/-- The nearest letter that is no mark. -/
def nearest? (cs : List Char) : Option Char := (cs.dropWhile nonspacingMarks.contains).head?

/-- Whether `c` may stand between two texts; the one before it is reversed. -/
def fits (label before : List Char) (c : Char) (after : List Char) : Bool :=
  let has (s : CodeSet) (o : Option Char) : Bool := o.any s.contains
  match c.toNat with
  | 0x200c =>
    before.head?.any isVirama ||
      (has joinsBoth (nearest? before) || has joinsAfter (nearest? before)) &&
        (has joinsBoth (nearest? after) || has joinsBefore (nearest? after))
  | 0x200d => before.head?.any isVirama
  | 0xb7 => before.head? == some 'l' && after.head? == some 'l'
  | 0x375 => has greek after.head?
  | 0x5f3 | 0x5f4 => has hebrew before.head?
  | 0x30fb => label.any japanese.contains
  | n =>
    if 0x660 ≤ n && n ≤ 0x669 then label.all fun d => d.toNat < 0x6f0 || 0x6f9 < d.toNat
    else if 0x6f0 ≤ n && n ≤ 0x6f9 then label.all fun d => d.toNat < 0x660 || 0x669 < d.toNat
    else letters.contains c

/-- Whether every character of a text fits after the reversed text `before`. -/
def allFit (label before : List Char) : List Char → Bool
  | [] => true
  | c :: r => fits label before c r && allFit label (c :: before) r

/-- A label with letters or digits from right to left begins and ends with such, has no others
but European digits, and digits of one kind. -/
def isDirected (label : List Char) : Bool :=
  let leftward (c : Char) := rightToLeft.contains c || arabicDigits.contains c
  let ends (c : Char) := leftward c || europeanDigits.contains c
  !label.any leftward ||
    label.head?.any rightToLeft.contains &&
    label.all (fun c => ends c || undirected.contains c || nonspacingMarks.contains c) &&
    (nearest? label.reverse).any ends &&
    !(label.any arabicDigits.contains && label.any europeanDigits.contains)

/-- Hyphens stand neither at the ends nor at the third and fourth place together. -/
def hyphensFit (label : List Char) : Bool :=
  label.head? != some '-' && label.getLast? != some '-' && (label.drop 2).take 2 != ['-', '-']

def isMark (c : Char) : Bool := nonspacingMarks.contains c || spacingMarks.contains c

/-- Whether a name may have this label. -/
def isValid (label : List Char) : Bool :=
  !label.isEmpty && compose label == label && hyphensFit label && !label.head?.any isMark &&
    allFit label [] label && isDirected label

/-- What stands in front of a label in Punycode. -/
def mark : List Char := ['x', 'n', '-', '-']

/-- The text of a label in ASCII. -/
def decode? (label : List Char) : Option (List Char) :=
  if label.take 4 == mark then
    let cs := label.drop 4
    if cs.isEmpty || cs.getLast? == some '-' then none else Punycode.decode? cs
  else some label

/-- The label in ASCII. -/
def encode? (label : List Char) : Option (List Char) := do
  let ascii := label.all Punycode.isBasic
  let text ← if ascii then decode? label else some label
  if !isValid text then none
  else
    let sent := if ascii then label else mark ++ Punycode.encode label
    if sent.length ≤ 63 then some sent else none

/-- Any of the full stops that stand between labels. -/
def isStop (c : Char) : Bool := [0x2e, 0x3002, 0xff0e, 0xff61].contains c.toNat

/-- A name in ASCII. A stop at its end does not count. -/
def nameOf? (name : List Char) : Option (List Char) := do
  let labels := splitOn '.' (name.map fun c => if isStop c then '.' else c)
  let stop := labels.getLast? == some []
  let sent ← (if stop then labels.dropLast else labels).mapM encode?
  let name := joinWith '.' (if stop then sent ++ [[]] else sent)
  if name.length ≤ (if stop then 254 else 253) then some name else none

end ChatAudit.Label
