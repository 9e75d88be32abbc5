import ChatAudit.Text.CaseTable

/-! Texts in small letters, in capitals, and with one capital in front. -/
namespace ChatAudit.Text

/-- The code point that `c` maps to, itself if no run holds it. -/
def mapCase (runs : Array CaseRun) (c : Char) : Char :=
  match runs.find? fun r =>
      r.first ≤ c.toNat && c.toNat ≤ r.last && (c.toNat - r.first) % r.step == 0 with
  | some r => Char.ofNat (c.toNat + r.delta).toNat
  | none => c

def expansion? (table : Array (Nat × List Nat)) (c : Char) : Option (List Char) :=
  (table.find? fun e => e.1 == c.toNat).map fun e => e.2.map Char.ofNat

def upperChar (c : Char) : List Char :=
  (expansion? upperExpansions c).getD [mapCase upperRuns c]

def titleChar (c : Char) : List Char :=
  if titleFixed.contains c then [c] else (expansion? titleExceptions c).getD (upperChar c)

/-- Whether the next letter that is not a mark carries case. -/
def casedNext (cs : List Char) : Bool :=
  match cs.dropWhile caseIgnorable.contains with
  | [] => false
  | c :: _ => cased.contains c

/-- Small letters of `cs`, which stands after the reversed text `before`. A capital sigma at the
end of a word becomes a final one. -/
def lowerFrom (before : List Char) : List Char → List Char
  | [] => []
  | c :: r =>
    let small :=
      if c.toNat == 0x3a3 then
        [Char.ofNat (if casedNext before && !casedNext r then 0x3c2 else 0x3c3)]
      else if c.toNat == 0x130 then ['i', Char.ofNat 0x307]
      else [mapCase lowerRuns c]
    small ++ lowerFrom (c :: before) r

def lower (s : String) : String := String.ofList (lowerFrom [] s.toList)

def upper (s : String) : String := String.ofList (s.toList.flatMap upperChar)

/-- The first character in its title form, the rest in small letters. -/
def capitalize (s : String) : String :=
  match s.toList with
  | [] => ""
  | c :: r => String.ofList (titleChar c ++ lowerFrom [c] r)

end ChatAudit.Text
