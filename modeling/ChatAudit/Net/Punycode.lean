import ChatAudit.Text.Split

/-! Texts of any characters in letters, digits and hyphens (Punycode). -/
namespace ChatAudit.Punycode
open Text

def digitChar (d : Nat) : Char :=
  if d < 26 then Char.ofNat ('a'.toNat + d) else Char.ofNat ('0'.toNat + (d - 26))

def digitValue? (c : Char) : Option Nat :=
  if 'a' ≤ c && c ≤ 'z' then some (c.toNat - 'a'.toNat)
  else if 'A' ≤ c && c ≤ 'Z' then some (c.toNat - 'A'.toNat)
  else if '0' ≤ c && c ≤ '9' then some (c.toNat - '0'.toNat + 26)
  else none

/-- The digits from here on end a number. The place counts in steps of 36. -/
def threshold (bias place : Nat) : Nat := max 1 (min 26 (place - bias))

theorem threshold_pos (bias place : Nat) : 0 < threshold bias place := by
  unfold threshold; omega

/-- A number, least digit first; every place has a threshold of its own. -/
def writeNumber (bias place n : Nat) : List Char :=
  let t := threshold bias place
  if n < t then [digitChar n]
  else digitChar (t + (n - t) % (36 - t)) :: writeNumber bias (place + 36) ((n - t) / (36 - t))
termination_by n
decreasing_by
  have hpos := threshold_pos bias place
  exact Nat.lt_of_le_of_lt (Nat.div_le_self ..) (by omega)

/-- The number in front whose digits count `weight` times, with the rest. -/
def readNumber? (bias place weight : Nat) : List Char → Option (Nat × List Char)
  | [] => none
  | c :: r => do
    let d ← digitValue? c
    let t := threshold bias place
    if d < t then return (d * weight, r)
    let (n, r) ← readNumber? bias (place + 36) (weight * (36 - t)) r
    return (d * weight + n, r)

def shrink (delta k : Nat) : Nat :=
  if 455 < delta then shrink (delta / 35) (k + 36) else k + 36 * delta / (delta + 38)
termination_by delta

/-- The bias after the first or a later number, with `count` characters placed. -/
def adapt (delta count : Nat) (first : Bool) : Nat :=
  let delta := if first then delta / 700 else delta / 2
  shrink (delta + delta / count) 0

/-- How far the writing has come. -/
structure Progress where
  /-- Steps over code points and places since the last number. -/
  delta : Nat
  bias : Nat
  first : Bool
  /-- How many characters have their place. -/
  placed : Nat
  written : List Char

/-- Passes one character of the text while those of the code point `code` get their places. -/
def Progress.pass (code : Nat) (p : Progress) (c : Char) : Progress :=
  if c.toNat < code then { p with delta := p.delta + 1 }
  else if c.toNat = code then {
    delta := 0
    bias := adapt p.delta (p.placed + 1) p.first
    first := false
    placed := p.placed + 1
    written := p.written ++ writeNumber p.bias 36 p.delta }
  else p

/-- Gives the characters of ascending code points their places; `next` is the least that has not
been passed. -/
def Progress.place (text : List Char) (next : Nat) (p : Progress) : List Nat → Progress
  | [] => p
  | code :: codes =>
    let p := { p with delta := p.delta + (code - next) * (p.placed + 1) }
    let p := text.foldl (Progress.pass code) p
    Progress.place text (code + 1) { p with delta := p.delta + 1 } codes

def isBasic (c : Char) : Bool := c.toNat < 128

/-- ASCII characters come first, before a hyphen; the places of the others follow. -/
def encode (text : List Char) : List Char :=
  let basic := text.filter isBasic
  let codes := ((text.filter (!isBasic ·)).map Char.toNat).mergeSort.eraseDups
  let start : Progress :=
    { delta := 0, bias := 72, first := true, placed := basic.length, written := [] }
  (if basic.isEmpty then [] else basic ++ ['-']) ++ (start.place text 128 codes).written

/-- Puts characters at the places that numbers give, from a code point and a place on. -/
def insertAll (text : List Char) (code place bias : Nat) (first : Bool) :
    (count : Nat) → List Char → Option (List Char)
  | _, [] => some text
  | 0, _ => none
  | count + 1, cs => do
    let (delta, r) ← readNumber? bias 36 1 cs
    let places := text.length + 1
    let code := code + (place + delta) / places
    let place := (place + delta) % places
    if !code.isValidChar then none
    else
      insertAll (text.insertIdx place (Char.ofNat code)) code (place + 1)
        (adapt delta places first) false count r

/-- Inverse of `encode`. -/
def decode? (cs : List Char) : Option (List Char) :=
  let (basic, numbers) := cutAtLast '-' cs
  insertAll (basic.getD []) 128 0 72 true numbers.length numbers

end ChatAudit.Punycode
