import ChatAudit.Filters
import ChatAudit.Proofs.Dict
import Mathlib.Tactic.SplitIfs

/-! Windows end at the clock and begin their length before it, unless no calendar reaches there. -/
namespace ChatAudit

namespace Moment
variable {Offset : Type} {m start : Moment Offset} {micros : Nat}

/-- Whether `start` lies `micros` microseconds before `m` on the same clock. -/
def Before (start : Moment Offset) (micros : Nat) (m : Moment Offset) : Prop :=
  start.clock + micros = m.clock ∧ start.offset = m.offset

theorem earlier?_of_le (h : micros ≤ m.clock) :
    ∃ start, m.earlier? micros = some start ∧ start.Before micros m :=
  ⟨_, if_pos h, Nat.sub_add_cancel h, rfl⟩

theorem earlier?_eq_none (h : m.clock < micros) : m.earlier? micros = none :=
  if_neg (Nat.not_le.mpr h)

end Moment

namespace Window
variable {Offset : Type} {range : String} {seconds : Nat} {now : Moment Offset}

theorem bounds_eq (hrange : length range = .ok seconds) (now : Moment Offset) : bounds range now =
    match now.earlier? (seconds * 1000000) with
    | some start => .ok (start, now)
    | none => .error .beforeFirstYear := by
  rw [bounds, hrange]
  exact pure_bind seconds _

theorem bounds_of_le (hrange : length range = .ok seconds) (h : seconds * 1000000 ≤ now.clock) :
    ∃ start, bounds range now = .ok (start, now) ∧ start.Before (seconds * 1000000) now := by
  obtain ⟨start, hstart, hbefore⟩ := Moment.earlier?_of_le h
  exact ⟨start, by rw [bounds_eq hrange, hstart], hbefore⟩

theorem bounds_of_lt (hrange : length range = .ok seconds) (h : now.clock < seconds * 1000000) :
    bounds range now = .error .beforeFirstYear := by
  rw [bounds_eq hrange, Moment.earlier?_eq_none h]

end Window

namespace Filters
variable {filters : Filters} {range : String} {seconds : Nat} {now : Timestamp}

/-- Filters with the two ends of a window instead of its length. -/
def between (start stop : Timestamp) (filters : Filters) : Filters :=
  filters.without "time_range" ++
    [("start_time", .str (Timestamp.iso start)), ("end_time", .str (Timestamp.iso stop))]

variable (hrange : filters.lookup? "time_range" = some (.str range)) (hset : range ≠ "")

include hrange hset

theorem forBody_eq (now : Timestamp) : filters.forBody now =
    match Window.bounds range now with
    | .ok (start, stop) => .ok (((filters.without "time_range").put "start_time"
        (.str (Timestamp.iso start))).put "end_time" (.str (Timestamp.iso stop)))
    | .error f => .error (.window f) := by
  cases hbounds : Window.bounds range now <;>
    simp only [forBody, hrange, Option.getD_some, hbounds]

theorem forBody_of_bounds {start stop : Timestamp}
    (hstart : "start_time" ∉ filters.keys) (hend : "end_time" ∉ filters.keys)
    (h : Window.bounds range now = .ok (start, stop)) :
    filters.forBody now = .ok (filters.between start stop) := by
  have hsub := (Dict.keys_without "time_range" filters).subset
  have hput : (filters.without "time_range").put "start_time" (.str (Timestamp.iso start)) =
      filters.without "time_range" ++ [("start_time", .str (Timestamp.iso start))] :=
    Dict.put_of_not_mem fun hm => hstart (hsub hm)
  rw [forBody_eq hrange hset, h]
  dsimp only
  rw [hput, Dict.put_of_not_mem, List.append_assoc]
  · rfl
  · simpa [Dict.keys_append, Dict.keys] using fun hm => hend (hsub hm)

theorem forBody_of_error {fault : Window.Fault} (h : Window.bounds range now = .error fault) :
    filters.forBody now = .error (.window fault) := by
  rw [forBody_eq hrange hset, h]

end Filters
end ChatAudit
