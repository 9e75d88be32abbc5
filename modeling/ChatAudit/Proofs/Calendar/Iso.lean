import ChatAudit.Calendar.Reader
import ChatAudit.Proofs.Calendar.Days
import ChatAudit.Proofs.Text.Digits

/-! Timestamps are read back from the texts they are written as. -/
namespace ChatAudit.Timestamp
open Calendar Text

variable {t : Timestamp} {n w : Nat} {rest : List Char}

theorem digits?_padded (hw : 0 < w) (hn : n < 10 ^ w) (rest : List Char) :
    digits? w ((padded w n).toList ++ rest) = some (n, rest) := by
  have hlength := length_padded hw hn
  unfold digits?
  rw [List.take_left' hlength, mapM_asciiDigit? fun _ => isDigit_of_mem_padded]
  simp [List.drop_left' hlength, hlength, ofDigits_padded]

theorem digits?_two (hn : n < 100) (rest : List Char) :
    digits? 2 ((two n).toList ++ rest) = some (n, rest) :=
  digits?_padded (by decide) hn rest

theorem digits?_two_last (hn : n < 100) : digits? 2 (two n).toList = some (n, []) := by
  simpa using digits?_two hn []

theorem lt_of_isValid {d : Date} (h : d.isValid) : d.year < 10000 ∧ d.month < 100 ∧ d.day < 100 := by
  obtain ⟨year, month, day⟩ := d
  simp only [Date.isValid, Bool.and_eq_true, decide_eq_true_eq] at h
  obtain ⟨⟨hyear, -⟩, hday⟩ := h
  split at hday
  · next l hl =>
    obtain ⟨hlt, hget⟩ := List.getElem?_eq_some_iff.mp hl
    have hmem : l ∈ monthLengths year := hget ▸ List.getElem_mem hlt
    have hl31 : l ≤ 31 := by
      simp only [monthLengths, List.mem_cons, List.not_mem_nil, or_false] at hmem
      split_ifs at hmem <;> omega
    have hlength : (monthLengths year).length = 12 := rfl
    simp only [Bool.and_eq_true, decide_eq_true_eq] at hday
    simp only [maxYear] at hyear
    dsimp only
    omega
  · cases hday

theorem date?_written {d : Date} (h : d.isValid) (rest : List Char) :
    date? ((padded 4 d.year).toList ++ '-' :: ((two d.month).toList ++
      '-' :: ((two d.day).toList ++ rest))) = some (d, rest) := by
  obtain ⟨hyear, hmonth, hday⟩ := lt_of_isValid h
  simp [date?, digits?_padded (by decide : 0 < 4) hyear, digits?_two hmonth, digits?_two hday,
    expect?, h]

/-- A date and what follows it make up a timestamp. -/
theorem calendar?_eq {cs : List Char} {d : Date} {time : Nat} {offset : Option Int}
    (hd : date? cs = some (d, rest)) (hyear : d.year ≠ 0)
    (hrest : afterDate? rest = some (time, offset))
    (ht : ofClock? (d.toDays * dayLength + time : Nat) offset = some t) :
    calendar? cs = some (.ok t) := by
  refine Option.bind_eq_some_iff.mpr ⟨(d, rest), hd, ?_⟩
  refine Option.bind_eq_some_iff.mpr ⟨(time, offset), hrest, ?_⟩
  dsimp only
  rw [if_neg hyear]
  split
  · next h =>
    obtain rfl := Option.some.inj (h.symm.trans ht)
    rfl
  · next h => cases h.symm.trans ht

theorem asciiDigit?_eq_none {c : Char} (h : c.isDigit = false) : asciiDigit? c = none := by
  have hc : ¬('0' ≤ c ∧ c ≤ '9') := by simpa [Char.isDigit, Char.le_def] using h
  simp [asciiDigit?, hc]

/-- A run of digits goes as far as they do. -/
theorem digitRun_append {ds : List Char} (hds : ∀ c ∈ ds, c.isDigit)
    (hrest : ∀ c ∈ rest.head?, c.isDigit = false) :
    Binary64.digitRun (ds ++ rest) = (ds.map digitValue, rest) := by
  induction ds with
  | nil =>
    cases rest with
    | nil => rfl
    | cons c cs => simp [Binary64.digitRun, asciiDigit?_eq_none (hrest c rfl)]
  | cons d ds ih =>
    simp [Binary64.digitRun, asciiDigit?_of_isDigit (hds d List.mem_cons_self),
      ih fun c hc => hds c (List.mem_cons_of_mem d hc)]

theorem digitRun_of_digits {ds : List Char} (hds : ∀ c ∈ ds, c.isDigit) :
    Binary64.digitRun ds = (ds.map digitValue, []) := by
  have hstop : ∀ c ∈ ([] : List Char).head?, c.isDigit = false := nofun
  have hrun := digitRun_append hds hstop
  rwa [List.append_nil] at hrun

theorem fraction?_written (hn : n < 10 ^ 6) (hrest : ∀ c ∈ rest.head?, c.isDigit = false) :
    fraction? ((padded 6 n).toList ++ rest) = some (n, rest) := by
  have hlength : ((padded 6 n).toList.map digitValue).length = 6 := by
    rw [List.length_map, length_padded (by decide) hn]
  unfold fraction?
  rw [digitRun_append (fun _ => isDigit_of_mem_padded) hrest]
  split
  · next hnil =>
    rw [(Prod.mk.inj hnil).1] at hlength
    cases hlength
  · next ds rest' _ heq =>
    obtain ⟨rfl, rfl⟩ := Prod.mk.inj heq
    rw [List.take_left' hlength, ofDigits_padded]

/-- Whether a text after a time of day is not taken for a part of it. -/
def Ends (rest : List Char) : Prop :=
  ∀ c ∈ rest.head?, c.isDigit = false ∧ c ≠ '.' ∧ c ≠ ','

theorem seconds?_written {s f : Nat} (hs : s < 60) (hf : f < 10 ^ 6) (hrest : Ends rest) :
    seconds? (':' :: ((two s).toList ++
        ((if f = 0 then "" else "." ++ padded 6 f).toList ++ rest))) =
      some (s * 1000000 + f, rest) := by
  have hs' : ¬60 ≤ s := by omega
  split_ifs with hzero
  · cases rest with
    | nil => simp [seconds?, digits?_two_last (by omega : s < 100), hs', hzero]
    | cons c cs =>
      obtain ⟨-, hpoint, hcomma⟩ := hrest c rfl
      simp [seconds?, digits?_two (by omega : s < 100), hs', hzero, hpoint, hcomma]
  · simp [seconds?, digits?_two (by omega : s < 100), hs',
      fraction?_written hf fun c hc => (hrest c hc).1]

theorem time?_written (t : Timestamp) (hrest : Ends rest) :
    time? (t.timeText.toList ++ rest) = some (t.clock % dayLength, rest) := by
  have hhour : t.hour < 24 := Nat.mod_lt _ (by decide)
  have hminute : t.minute < 60 := Nat.mod_lt _ (by decide)
  have hsecond : t.second < 60 := Nat.mod_lt _ (by decide)
  have hmicrosecond : t.microsecond < 10 ^ 6 := Nat.mod_lt _ (by decide)
  have hclock : (t.hour * 60 + t.minute) * 60000000 + (t.second * 1000000 + t.microsecond) =
      t.clock % dayLength := by
    simp only [hour, minute, second, Moment.microsecond, dayLength]
    omega
  have htext : t.timeText.toList ++ rest = (two t.hour).toList ++ ':' :: ((two t.minute).toList ++
      ':' :: ((two t.second).toList ++ ((if t.microsecond = 0 then "" else
        "." ++ padded 6 t.microsecond).toList ++ rest))) := by
    simp [timeText]
  rw [htext]
  simp [time?, digits?_two (by omega : t.hour < 100), digits?_two (by omega : t.minute < 100),
    expect?, seconds?_written hsecond hmicrosecond hrest, ← hclock]
  omega

/-- Whether an offset is less than a day. -/
def Offset (minutes : Int) : Prop := minutes.natAbs < 1440

theorem offset?_offsetText {minutes : Int} (h : Offset minutes) :
    offset? (offsetText minutes).toList = some (some minutes) := by
  unfold Offset at h
  unfold offsetText
  generalize hn : minutes.natAbs = n at h ⊢
  have hhour : n / 60 < 24 := by omega
  have hminute : n % 60 < 60 := by omega
  have hlast := digits?_two_last (by omega : n % 60 < 100)
  by_cases hneg : minutes < 0
  · simp [offset?, hneg, offsetSign?, digits?_two (by omega : n / 60 < 100), hlast, hhour, hminute]
    omega
  · simp [offset?, hneg, offsetSign?, digits?_two (by omega : n / 60 < 100), hlast, hhour, hminute]
    omega

/-- Whether a text for offsets is read as the offset and ends a time of day. -/
def ReadBack (zone : Int → String) : Prop :=
  ∀ minutes, Offset minutes →
    offset? (zone minutes).toList = some (some minutes) ∧ Ends (zone minutes).toList

theorem readBack_offsetText : ReadBack offsetText := by
  refine fun minutes h => ⟨offset?_offsetText h, fun c hc => ?_⟩
  have hsign : c = '-' ∨ c = '+' := by
    by_cases hneg : minutes < 0
    · exact .inl (by simpa [offsetText, hneg, eq_comm] using hc)
    · exact .inr (by simpa [offsetText, hneg, eq_comm] using hc)
  rcases hsign with rfl | rfl <;> decide

theorem readBack_wire : ReadBack fun o => if o = 0 then "Z" else offsetText o := by
  intro minutes h
  dsimp only
  split_ifs with hzero
  · subst hzero
    exact ⟨rfl, fun c hc => by obtain rfl : 'Z' = c := by simpa using hc
                               decide⟩
  · exact readBack_offsetText minutes h

theorem ofClock?_clock (t : Timestamp) : ofClock? t.clock t.offset = some t := by
  simp [ofClock?, t.clock_lt]

theorem day_lt (t : Timestamp) : t.clock / dayLength < yearStart (maxYear + 1) := by
  rw [Nat.div_lt_iff_lt_mul (by decide)]
  exact t.clock_lt

/-- The day and the time on it make up the clock. -/
theorem toDays_date (t : Timestamp) :
    t.date.toDays * dayLength + t.clock % dayLength = t.clock := by
  rw [date, toDays_ofDays, Nat.mul_comm]
  exact Nat.div_add_mod ..

theorem read_isoWith {zone : Int → String} (hzone : ReadBack zone)
    (ht : ∀ o ∈ t.offset, Offset o) : read (t.isoWith zone) = .ok t := by
  have hvalid : t.date.isValid := isValid_ofDays t.day_lt
  have hyear : t.date.year ≠ 0 := by
    obtain ⟨_, -, -, hyear, -⟩ := dayOfYear_ofDays (t.clock / dayLength)
    exact Nat.one_le_iff_ne_zero.mp hyear
  obtain ⟨hoffset, hends⟩ : offset? (t.offset.elim "" zone).toList = some t.offset ∧
      Ends (t.offset.elim "" zone).toList := by
    cases ho : t.offset with
    | none => exact ⟨rfl, fun c hc => by cases hc⟩
    | some o => exact hzone o (ht o ho)
  have htext : (t.isoWith zone).toList = (padded 4 t.date.year).toList ++ '-' ::
      ((two t.date.month).toList ++ '-' :: ((two t.date.day).toList ++ 'T' ::
        (t.timeText.toList ++ (t.offset.elim "" zone).toList))) := by
    simp [isoWith]
  have hafter : afterDate? ('T' :: (t.timeText.toList ++ (t.offset.elim "" zone).toList)) =
      some (t.clock % dayLength, t.offset) := by
    simp [afterDate?, time?_written t hends, hoffset]
  have hclock := t.ofClock?_clock
  rw [← t.toDays_date] at hclock
  have hcalendar : calendar? (t.isoWith zone).toList = some (.ok t) := by
    rw [htext]
    exact calendar?_eq (date?_written hvalid _) hyear hafter hclock
  simp [read, hcalendar]

/-- ISO text and the text that requests carry are both read as what they stand for. -/
theorem read_iso (ht : ∀ o ∈ t.offset, Offset o) : read t.iso = .ok t :=
  read_isoWith readBack_offsetText ht

theorem read_wire (ht : ∀ o ∈ t.offset, Offset o) : read t.wire = .ok t :=
  read_isoWith readBack_wire ht

end ChatAudit.Timestamp
