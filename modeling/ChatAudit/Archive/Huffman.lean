/-! Prefix codes that are given by the lengths of their code words. -/
namespace ChatAudit.Archive

/-- The symbols with code words of one bit, of two bits, and so on. Code words of one length follow
each other, and those of the next length follow them. -/
abbrev Huffman := List (List Nat)

namespace Huffman

def maxLength : Nat := 15

/-- The symbols whose code words have `length` bits. -/
def level (lengths : List Nat) (length : Nat) : List Nat :=
  (List.range lengths.length).filter fun s => lengths.getD s 0 == length

/-- Up to the longest code word, and at least one level. -/
def ofLengths (lengths : List Nat) : Huffman :=
  (List.range (max 1 (lengths.foldl max 0))).map fun i => level lengths (i + 1)

/-- How many code words of `maxLength` bits are left over; negative if there are too many. -/
def spare (lengths : List Nat) : Int :=
  let words (length : Nat) : Int := Nat.pow 2 (maxLength - length)
  lengths.foldl (fun n l => if l = 0 then n else n - words l) (words 0)

def isEmpty (lengths : List Nat) : Bool := lengths.all (· == 0)

/-- Whether no code word is left over. -/
def isComplete (lengths : List Nat) : Bool := spare lengths == 0

/-- Whether the lengths fit a code. A code without words and one with a single bit do too, although
they leave words over. -/
def isCode (lengths : List Nat) : Bool :=
  isEmpty lengths || isComplete lengths || (0 < spare lengths && lengths.all (· ≤ 1))

inductive Decoded
  | symbol (s : Nat) (rest : List Bool)
  /-- The bits end within a code word. -/
  | short
  /-- No code word begins like this. -/
  | unknown

/-- Reads a code word of a level or a later one; `code` are the bits so far and `first` is the
first code word of the level. -/
def decodeFrom : Huffman → (code first : Nat) → List Bool → Decoded
  | [], _, _, _ => .unknown
  | _, _, _, [] => .short
  | symbols :: levels, code, first, bit :: bits =>
    let code := code + bit.toNat
    match symbols[code - first]? with
    | some s => .symbol s bits
    | none => decodeFrom levels (2 * code) (2 * (first + symbols.length)) bits

def decode (h : Huffman) (bits : List Bool) : Decoded := decodeFrom h 0 0 bits

end Huffman
end ChatAudit.Archive
