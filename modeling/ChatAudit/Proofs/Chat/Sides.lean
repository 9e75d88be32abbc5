import ChatAudit.Chat.Transcript
import Mathlib.Data.List.Basic

/-! The two sides of an exchange are a stable partition of the messages of a log. -/
namespace ChatAudit

namespace Message
variable {stored part : List Message}

/-- Whether `part` has the messages of `stored` in the order of their indices, those of one index in
the order in which they are stored. -/
structure Ordered (stored part : List Message) : Prop where
  perm : part.Perm stored
  sorted : part.Pairwise fun a b => a.index ≤ b.index
  stable : ∀ i, part.filter (·.index = i) = stored.filter (·.index = i)

theorem ordered_mergeSort (stored : List Message) :
    Ordered stored (stored.mergeSort fun a b => a.index ≤ b.index) := by
  have htrans (a b c : Message) : decide (a.index ≤ b.index) → decide (b.index ≤ c.index) →
      decide (a.index ≤ c.index) := by
    simp only [decide_eq_true_eq]
    omega
  have htotal (a b : Message) : decide (a.index ≤ b.index) || decide (b.index ≤ a.index) := by
    simp only [Bool.or_eq_true, decide_eq_true_eq]
    omega
  have hperm := List.mergeSort_perm stored fun a b => a.index ≤ b.index
  refine ⟨hperm, ?_, fun i => ?_⟩
  · have hsorted := List.pairwise_mergeSort htrans htotal stored
    simpa only [decide_eq_true_eq] using hsorted
  · -- messages of one index are in order as they are stored, so sorting leaves them in their places
    have hlevel : (stored.filter (·.index = i)).Pairwise fun a b => decide (a.index ≤ b.index) := by
      apply List.pairwise_of_forall_mem_list
      intro a ha b hb
      simp only [List.mem_filter, decide_eq_true_eq] at ha hb ⊢
      omega
    have hsub := (List.sublist_mergeSort htrans htotal hlevel List.filter_sublist).filter
      (·.index = i)
    simp only [List.filter_filter, Bool.and_self] at hsub
    have hlength := (hperm.filter (·.index = i)).length_eq
    exact (hsub.eq_of_length hlength.symm).symm

/-- Taking out messages leaves the others in order. -/
theorem Ordered.filter (h : Ordered stored part) (p : Message → Bool) :
    Ordered (stored.filter p) (part.filter p) := by
  refine ⟨h.perm.filter p, h.sorted.filter p, fun i => ?_⟩
  have hstable := congrArg (List.filter p) (h.stable i)
  simpa only [List.filter_filter, Bool.and_comm] using hstable

end Message

namespace Log

theorem exchange_eq (l : Log) : l.exchange =
    ((l.messages.mergeSort fun a b => a.index ≤ b.index).filter (·.source ≠ "response"),
      (l.messages.mergeSort fun a b => a.index ≤ b.index).filter (·.source = "response")) := by
  have hresponse : Message.isResponse = fun m => decide (m.source = "response") := by
    funext m
    rw [Message.isResponse, beq_eq_decide]
  simp only [exchange, hresponse, ne_eq, decide_not]

/-- Each message is on one side, on the second one just if it belongs to the response, and both sides
are in order. -/
theorem exchange_partition (l : Log) :
    (l.exchange.1 ++ l.exchange.2).Perm l.messages ∧
      Message.Ordered (l.messages.filter (·.source ≠ "response")) l.exchange.1 ∧
      Message.Ordered (l.messages.filter (·.source = "response")) l.exchange.2 := by
  have hordered := Message.ordered_mergeSort l.messages
  rw [exchange_eq]
  refine ⟨?_, hordered.filter _, hordered.filter _⟩
  have hparts := List.filter_append_perm (·.source = "response")
    (l.messages.mergeSort fun a b => a.index ≤ b.index)
  have hcomm := List.perm_append_comm.trans (hparts.trans hordered.perm)
  simpa only [ne_eq, decide_not] using hcomm

end Log
end ChatAudit
