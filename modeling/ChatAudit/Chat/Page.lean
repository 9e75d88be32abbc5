import ChatAudit.Record.Scalar
import ChatAudit.Record.Fields

/-! One page of a longer list. -/
namespace ChatAudit
open Record

structure Page (α : Type) where
  items : List α
  /-- The length of the whole list, as the server counts it. -/
  total : Int
  number : Int
  size : Int
deriving DecidableEq, Repr

def Page.read {α : Type} (item : Dict Json → Checked α) (d : Dict Json) : Checked (Page α) :=
  Page.mk <$> optional "items" [] (listOrNull (record item)) d <*>
    optional "total" 0 integer d <*> optional "page" 1 integer d <*>
    optional "page_size" 0 integer d

end ChatAudit
