import ChatAudit.Net.Label
import ChatAudit.Net.Percent
import ChatAudit.Text.Split

/-! Hosts in addresses. -/
namespace ChatAudit.Host
open Text

/-- A number of an address with four numbers, without zeros in front. -/
def isOctet (cs : List Char) : Bool :=
  !cs.isEmpty && cs.length ≤ 3 && cs.all Char.isDigit &&
    (cs.length == 1 || cs.head? != some '0') &&
    (cs.mapM asciiDigit?).elim false fun ds => ofDigits 10 ds ≤ 255

def isIPv4 (cs : List Char) : Bool :=
  let parts := splitOn '.' cs
  parts.length == 4 && parts.all isOctet

def isHextet (cs : List Char) : Bool :=
  !cs.isEmpty && cs.length ≤ 4 && cs.all fun c => (hexValue? c).isSome

/-- The parts of an address where one with four numbers at the end counts for two. -/
def withoutIPv4? (parts : List (List Char)) : Option (List (List Char)) :=
  match parts.getLast? with
  | some last =>
    if last.contains '.' then
      if isIPv4 last then some (parts.dropLast ++ [['0'], ['0']]) else none
    else some parts
  | none => some parts

/-- The positions of empty parts between others. -/
def innerGaps (parts : List (List Char)) : List Nat :=
  (List.range parts.length).filter fun i =>
    0 < i && i + 1 < parts.length && (parts.getD i []).isEmpty

/-- At most one run of zeros is left out. -/
def isHextets (parts : List (List Char)) : Bool :=
  match innerGaps parts with
  | [] => parts.length == 8 && parts.all isHextet
  | [gap] =>
    let before := parts.take gap
    let after := parts.drop (gap + 1)
    let before' := if before.head? == some [] then before.tail else before
    let after' := if after.getLast? == some [] then after.dropLast else after
    (before.head? != some [] || before'.isEmpty) && (after.getLast? != some [] || after'.isEmpty) &&
      before'.length + after'.length < 8 && before'.all isHextet && after'.all isHextet
  | _ => false

def isIPv6 (cs : List Char) : Bool :=
  let (address, scope) := cutAt '%' cs
  let scopeFits := match scope with
    | none => true
    | some s => !s.isEmpty && !s.contains '%'
  let parts := splitOn ':' address
  scopeFits && 3 ≤ parts.length &&
    (withoutIPv4? parts).elim false fun parts => parts.length ≤ 9 && isHextets parts

/-- Four runs of digits with one character between each two. Entry `2 * k` says that run `k` may
begin here, the entry after it that the run has a digit. -/
def numericStep (s : List Bool) (c : Char) : List Bool :=
  let old (i : Nat) := s.getD i false
  (List.range 8).map fun i =>
    if i % 2 == 1 then c.isDigit && (old (i - 1) || old i) else i != 0 && old (i - 1)

/-- Whether a host looks like an address with four numbers. -/
def looksNumeric (cs : List Char) : Bool := ((cs.foldl numericStep [true]).getD 7 false)

def isBracketed (cs : List Char) : Bool :=
  cs.head? == some '[' && 2 ≤ cs.length && cs.getLast? == some ']'

/-- Characters that a host may have beside the unreserved ones. -/
def isSafe (c : Char) : Bool :=
  ['!', '$', '&', '\x27', '(', ')', '*', '+', ',', ';', '=', '"', '\x60', '\x7b', '\x7d', '%', '|',
    '\\'].contains c

inductive Fault
  | ipv4
  | ipv6
  | name
deriving DecidableEq, Repr

/-- A host in small letters, with escapes where it needs them or as a name in ASCII. -/
def normalize (cs : List Char) : Except Fault (List Char) :=
  if cs.isEmpty then .ok []
  else if looksNumeric cs then if isIPv4 cs then .ok cs else .error .ipv4
  else if isBracketed cs then
    let inner := cs.tail.dropLast
    if isIPv6 inner then .ok inner else .error .ipv6
  else if cs.all fun c => c.toNat < 128 then
    .ok (Percent.normalize isSafe (cs.map Char.toLower))
  else match Label.nameOf? (lowerFrom [] cs) with
    | some name => .ok name
    | none => .error .name

end ChatAudit.Host
