import ChatAudit.Logging
import ChatAudit.Proofs.Dict
import Mathlib.Data.List.Induction

/-! Loggers that are set up again and again: the last level counts for the logger, the first one for
its handler. -/
namespace ChatAudit.Logging

/-- The number that a level counts as. -/
def Level.rank : Level → Int
  | .number n => n
  | .flag b => if b then 1 else 0

/-- A setup of a logger with a value that stands for a level. -/
structure Setup where
  value : Json
  name : String
  level : Level
  level_of : levelOf? value = some level

/-- The loggers after setups in turn. -/
def setupAll (setups : List Setup) (loggers : Dict Logger) : Dict Logger :=
  setups.foldl (fun ls c => setup c.level c.name ls) loggers

/-- The setups of one logger. -/
def setupsOf (name : String) (setups : List Setup) : List Setup :=
  setups.filter fun c => loggerName c.name == loggerName name

/-- Whether no logger has a handler yet. -/
def Fresh (loggers : Dict Logger) : Prop :=
  ∀ name l, loggers.lookup? name = some l → l.handlers = []

section Step
variable {level : Level} {name other : String} {loggers : Dict Logger} {setups : List Setup}
  {c : Setup}

theorem lookup?_setup_of_ne (h : loggerName name ≠ other) :
    (setup level name loggers).lookup? other = loggers.lookup? other := by
  rw [setup, Dict.lookup?_put, if_neg h]

/-- The first setup gives a logger its handler. -/
theorem lookup?_setup_of_fresh
    (h : ∀ l, loggers.lookup? (loggerName name) = some l → l.handlers = []) :
    (setup level name loggers).lookup? (loggerName name) = some ⟨level, [level]⟩ := by
  rw [setup, Dict.lookup?_put, if_pos rfl]
  cases hl : loggers.lookup? (loggerName name) with
  | none => rfl
  | some l => simp [h l hl]

/-- A later setup leaves the handler as it is. -/
theorem lookup?_setup_of_handler {before handler : Level}
    (h : loggers.lookup? (loggerName name) = some ⟨before, [handler]⟩) :
    (setup level name loggers).lookup? (loggerName name) = some ⟨level, [handler]⟩ := by
  rw [setup, Dict.lookup?_put, if_pos rfl, h]
  rfl

end Step

section Run
variable {name : String} {loggers : Dict Logger} {setups : List Setup} {first last c : Setup}

theorem setupAll_concat (setups : List Setup) (c : Setup) (loggers : Dict Logger) :
    setupAll (setups ++ [c]) loggers = setup c.level c.name (setupAll setups loggers) := by
  rw [setupAll, List.foldl_concat]
  rfl

theorem setupsOf_concat_of_eq (h : loggerName c.name = loggerName name) :
    setupsOf name (setups ++ [c]) = setupsOf name setups ++ [c] := by
  simp [setupsOf, List.filter_append, h]

theorem setupsOf_concat_of_ne (h : loggerName c.name ≠ loggerName name) :
    setupsOf name (setups ++ [c]) = setupsOf name setups := by
  simp [setupsOf, List.filter_append, h]

/-- What the setups of one logger make of it in turn. -/
def settled (before : Option Logger) : List Setup → Option Logger
  | [] => before
  | first :: rest => some ⟨(rest.getLastD first).level, [first.level]⟩

theorem lookup?_setupAll (hfresh : Fresh loggers) (name : String) (setups : List Setup) :
    (setupAll setups loggers).lookup? (loggerName name) =
      settled (loggers.lookup? (loggerName name)) (setupsOf name setups) := by
  induction setups using List.reverseRecOn with
  | nil => rfl
  | append_singleton setups c ih =>
    rw [setupAll_concat]
    by_cases hc : loggerName c.name = loggerName name
    · rw [setupsOf_concat_of_eq hc]
      cases hsetups : setupsOf name setups with
      | nil =>
        rw [hsetups] at ih
        have hnone : ∀ l, (setupAll setups loggers).lookup? (loggerName c.name) = some l →
            l.handlers = [] := by
          rw [hc, ih]
          exact hfresh (loggerName name)
        exact hc ▸ lookup?_setup_of_fresh hnone
      | cons first rest =>
        rw [hsetups, ← hc] at ih
        rw [← hc, lookup?_setup_of_handler ih, List.cons_append, settled, List.getLastD_concat]
    · rw [setupsOf_concat_of_ne hc, lookup?_setup_of_ne hc, ih]

/-- A logger that was set up has the level of its last setup and one handler, whose level is that of
its first setup: the last level counts for both just if the first one is the same number. Setups of
other loggers count for nothing. -/
theorem last_level_settled_iff (hfresh : Fresh loggers) (setups : List Setup) (name : String) :
    (setupAll setups loggers).lookup? (loggerName name) =
        (setupAll (setupsOf name setups) loggers).lookup? (loggerName name) ∧
      ((∃ c ∈ setups, loggerName c.name = loggerName name) → ∃ first last handler,
        (setupsOf name setups).head? = some first ∧ (setupsOf name setups).getLast? = some last ∧
        (setupAll setups loggers).lookup? (loggerName name) = some ⟨last.level, [handler]⟩ ∧
        (handler.rank = last.level.rank ↔ first.level.rank = last.level.rank)) := by
  have hown : setupsOf name (setupsOf name setups) = setupsOf name setups := by
    simp [setupsOf, List.filter_filter]
  rw [lookup?_setupAll hfresh, lookup?_setupAll hfresh, hown]
  refine ⟨rfl, ?_⟩
  rintro ⟨c, hc, hname⟩
  have hmem : c ∈ setupsOf name setups := List.mem_filter.mpr ⟨hc, beq_iff_eq.mpr hname⟩
  obtain ⟨first, rest, hsetups⟩ := List.exists_cons_of_ne_nil (List.ne_nil_of_mem hmem)
  rw [hsetups]
  have hlast : (first :: rest).getLast? = some (rest.getLastD first) := by
    rw [List.getLast?_cons, List.getLastD_eq_getLast?]
  exact ⟨first, rest.getLastD first, first.level, rfl, hlast, rfl, Iff.rfl⟩

end Run

section Levels

def debugSetup : Setup := ⟨.str "debug", "security_console", .number 10, by decide +kernel⟩
def rootSetup : Setup := ⟨.int 40, "", .number 40, rfl⟩
def loudSetup : Setup := ⟨.str "LOUD", "security_console", .number 20, by decide +kernel⟩

/-- An unknown name stands for the default level, so that the handler keeps to another one. -/
theorem unknown_level_settled : Fresh [] ∧
    (∃ c ∈ [debugSetup, rootSetup, loudSetup], loggerName c.name = "security_console") ∧
    ∃ handler, Dict.lookup? "security_console" (setupAll [debugSetup, rootSetup, loudSetup] []) =
      some ⟨.number 20, [handler]⟩ ∧ handler.rank ≠ 20 := by
  have hfresh : Fresh [] := nofun
  have hset : ∃ c ∈ [debugSetup, rootSetup, loudSetup], loggerName c.name = "security_console" :=
    ⟨debugSetup, List.mem_cons_self, rfl⟩
  obtain ⟨first, last, handler, hfirst, hlast, hlogger, hiff⟩ :=
    (last_level_settled_iff hfresh [debugSetup, rootSetup, loudSetup] "security_console").2 hset
  obtain rfl : debugSetup = first := Option.some.inj hfirst
  obtain rfl : loudSetup = last := Option.some.inj hlast
  exact ⟨hfresh, hset, handler, hlogger, fun h => absurd (hiff.mp h) (by decide)⟩

/-- The first level stays with the handler when another one is set up. -/
theorem later_level_not_settled : ¬∃ handler,
    Dict.lookup? "security_console" (setupAll [debugSetup, loudSetup] []) =
      some ⟨loudSetup.level, [handler]⟩ ∧ handler.rank = loudSetup.level.rank := by
  rintro ⟨handler, hlogger, hrank⟩
  have hten : Dict.lookup? "security_console" (setupAll [debugSetup, loudSetup] []) =
      some ⟨.number 20, [.number 10]⟩ := rfl
  obtain rfl : Level.number 10 = handler := by
    simpa using congrArg Logger.handlers (Option.some.inj (hten.symm.trans hlogger))
  exact absurd hrank (by decide)

end Levels
end ChatAudit.Logging
