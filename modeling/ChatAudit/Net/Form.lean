import ChatAudit.Net.Percent
import ChatAudit.Json.Display

/-! Query strings as forms encode them. -/
namespace ChatAudit.Form

/-- A space is a plus sign. -/
def encodeChar (c : Char) : List Char :=
  if c == ' ' then ['+'] else if Percent.isUnreserved c then [c] else Percent.escape c

def encodeText (s : String) : List Char := s.toList.flatMap encodeChar

def encodePair (p : String × String) : List Char := encodeText p.1 ++ '=' :: encodeText p.2

def encode : List (String × String) → List Char
  | [] => []
  | [p] => encodePair p
  | p :: ps => encodePair p ++ '&' :: encode ps

/-- A single value as text. -/
def valueText : Json → String
  | .null => ""
  | .bool b => if b then "true" else "false"
  | v => v.display

/-- The pairs of one parameter; a list gives one for each item. -/
def pairsOf (key : String) : Json → List (String × String)
  | .arr vs => vs.map fun v => (key, valueText v)
  | v => [(key, valueText v)]

def pairs (params : Dict Json) : List (String × String) :=
  List.flatMap (fun e => pairsOf e.1 e.2) params

end ChatAudit.Form
