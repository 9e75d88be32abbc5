/-! Checks that report everything they find. -/
namespace ChatAudit.Record

/-- Why a value was not accepted. -/
inductive Cause
  | missing
  | notText
  | notInteger
  | integerText
  | integerSize
  | fraction
  | notFinite
  | notNumber
  | numberText
  | notTruth
  | truthText
  | notInstant
  | instantRange
  | instantText
  | notList
  | notDict
  | notRecord
deriving DecidableEq, Repr

inductive Step
  | key (name : String)
  | index (n : Nat)
deriving DecidableEq, Repr

structure Issue where
  cause : Cause
  path : List Step
deriving DecidableEq, Repr

/-- A value, or what is wrong with the input in the order in which it was looked at. -/
inductive Checked (α : Type)
  | accepted (value : α)
  | rejected (issues : List Issue)
deriving Repr

namespace Checked
variable {α β : Type}

def map (f : α → β) : Checked α → Checked β
  | .accepted a => .accepted (f a)
  | .rejected es => .rejected es

/-- The issues of both, the first ones first. -/
def apply : Checked (α → β) → Checked α → Checked β
  | .accepted f, .accepted a => .accepted (f a)
  | .accepted _, .rejected es => .rejected es
  | .rejected es, .accepted _ => .rejected es
  | .rejected es, .rejected fs => .rejected (es ++ fs)

instance : Applicative Checked where
  pure := .accepted
  map := map
  seq f a := apply f (a ())

def reject (cause : Cause) : Checked α := .rejected [⟨cause, []⟩]

/-- The check of a part, whose issues lie below `step`. -/
def below (step : Step) : Checked α → Checked α
  | .accepted a => .accepted a
  | .rejected es => .rejected (es.map fun e => ⟨e.cause, step :: e.path⟩)

def ofOption (cause : Cause) : Option α → Checked α
  | some a => .accepted a
  | none => reject cause

def toOption : Checked α → Option α
  | .accepted a => some a
  | .rejected _ => none

end Checked
end ChatAudit.Record
