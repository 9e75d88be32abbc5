import ChatAudit.Proofs.Console.Boxes
import ChatAudit.Proofs.Console.Paging
import ChatAudit.Proofs.Text.Integer

/-! What becomes of the id that a user types: which texts restrict the filters, which ones the user
is told of, and which ones are passed over. -/
namespace ChatAudit.Console
open Panel Text

/-- Whether filters are restricted to the user with the positive id that a text stands for. -/
def AppliesId (raw : String) (filters : Filters) : Prop :=
  ∃ k n, 0 < n ∧ Denotes raw k n ∧ filters.lookup? "user_id" = some (.int n)

/-- Whether a text stands for a number that is no id, and is short enough to be read as one. -/
def DenotesNoId (raw : String) : Prop := ∃ k ≤ maxDigits, ∃ n ≤ 0, Denotes raw k n

section Reading
variable {raw : String} {n : Int}

theorem readInteger_strip_eq_ok_iff :
    readInteger (strip raw) = .ok n ↔ ∃ k ≤ maxDigits, Denotes raw k n := by
  rw [readInteger_eq_ok_iff]
  unfold Denotes
  rw [strip_strip]

/-- A text that is not blank stands for a number that is read, or else is ignored. -/
theorem id_cases (hblank : strip raw ≠ "") :
    (∃ k ≤ maxDigits, ∃ n, Denotes raw k n ∧ isIgnored raw = false ∧
      idOf raw = if 0 < n then some n else none) ∨
      (∀ k n, Denotes raw k n → maxDigits < k) ∧ isIgnored raw = true := by
  unfold isIgnored idOf
  simp only [bne_iff_ne.mpr hblank, beq_eq_false_iff_ne.mpr hblank, Bool.true_and,
    Bool.false_eq_true, if_false]
  cases hread : readInteger (strip raw) with
  | ok n =>
    obtain ⟨k, hk, hn⟩ := readInteger_strip_eq_ok_iff.mp hread
    exact .inl ⟨k, hk, n, hn, rfl, rfl⟩
  | error f =>
    refine .inr ⟨fun k n hn => Nat.lt_of_not_le fun hk => ?_, rfl⟩
    cases hread.symm.trans (readInteger_strip_eq_ok_iff.mpr ⟨k, hk, hn⟩)

end Reading

/-- A text that is not ignored is not warned of, and nothing else ever is. -/
theorem silent_of_kept {env : Env} (h : isIgnored (env.typed "User ID") = false)
    (keys : List ApiKey) (defaultRange : String) :
    ∀ e ∈ env.sidebarEvents keys defaultRange, e.function ≠ "warning" := by
  rw [Env.sidebarEvents, h]
  simp [upperBoxes, textBox, choiceBox]

/-- A text that is not blank restricts the filters to the user with the positive id that it stands
for, or the user is told that it is ignored, just if it does not stand for a number that is zero or
less. Of numbers only those are ignored that are too long to be read. A number that is no id is left
out of the filters without a word. -/
theorem typed_id_heeded_iff (env : Env) (s : Screen) (keys : List ApiKey) (defaultRange : String)
    (hblank : strip (env.typed "User ID") ≠ "") :
    ∃ filters shown, exec (sidebar keys defaultRange) env s =
        (.ok filters, { s with events := shown ++ s.events }) ∧
      (AppliesId (env.typed "User ID") filters ∨ ignoredId (env.typed "User ID") ∈ shown ↔
        ¬DenotesNoId (env.typed "User ID")) ∧
      (∀ k n, Denotes (env.typed "User ID") k n →
        (ignoredId (env.typed "User ID") ∈ shown ↔ maxDigits < k)) ∧
      (DenotesNoId (env.typed "User ID") →
        filters.lookup? "user_id" = none ∧ ∀ e ∈ shown, e.function ≠ "warning") := by
  refine ⟨_, _, exec_sidebar_eq keys defaultRange, ?_⟩
  have hid : (env.selection keys defaultRange).filters.lookup? "user_id" =
      (idOf (env.typed "User ID")).map .int := by
    rw [(env.selection keys defaultRange).lookup?_setIds.1, Env.selection]
  rcases id_cases hblank with ⟨k, hk, n, hn, hkept, hvalue⟩ | ⟨hlong, hignored⟩
  · have hsilent := silent_of_kept hkept keys defaultRange
    have hunseen : ignoredId (env.typed "User ID") ∉ env.sidebarEvents keys defaultRange :=
      fun hmem => hsilent _ hmem rfl
    have hread : ∀ j i, Denotes (env.typed "User ID") j i →
        (ignoredId (env.typed "User ID") ∈ env.sidebarEvents keys defaultRange ↔
          maxDigits < j) := by
      intro j i hi
      obtain ⟨rfl, -⟩ := hn.unique hi
      exact iff_of_false hunseen (Nat.not_lt.mpr hk)
    rw [hvalue] at hid
    by_cases hpos : 0 < n
    · rw [if_pos hpos] at hid
      have hnot : ¬DenotesNoId (env.typed "User ID") := by
        rintro ⟨j, -, i, hi, hdenotes⟩
        obtain ⟨-, rfl⟩ := hn.unique hdenotes
        exact absurd hpos (Int.not_lt.mpr hi)
      exact ⟨iff_of_true (.inl ⟨k, n, hpos, hn, hid⟩) hnot, hread, fun h => absurd h hnot⟩
    · rw [if_neg hpos] at hid
      have hno : DenotesNoId (env.typed "User ID") := ⟨k, hk, n, Int.not_lt.mp hpos, hn⟩
      refine ⟨iff_of_false ?_ (not_not.mpr hno), hread, fun _ => ⟨hid, hsilent⟩⟩
      rintro (⟨_, _, -, -, hlookup⟩ | hmem)
      · cases hid.symm.trans hlookup
      · exact hunseen hmem
  · have hmem : ignoredId (env.typed "User ID") ∈ env.sidebarEvents keys defaultRange := by
      simp [Env.sidebarEvents, hignored]
    have hnot : ¬DenotesNoId (env.typed "User ID") := by
      rintro ⟨k, hk, n, -, hn⟩
      exact absurd (hlong k n hn) (Nat.not_lt.mpr hk)
    exact ⟨iff_of_true (.inr hmem) hnot, fun k n hn => iff_of_true hmem (hlong k n hn),
      fun h => absurd h hnot⟩

section Typing

/-- A user who types an id and nothing else. -/
def typing (raw : String) : Env := browse [("User ID", .str raw)] fun _ => .lost ""

def mixedId : String := " +٤_2\n"

theorem denotes_mixedId : Denotes mixedId 2 42 := by
  have hstrip : (strip mixedId).toList = ['+'] ++ ['٤', '_', '2'] := by decide +kernel
  have hfour : digitValue? '٤' = some 4 := by decide +kernel
  have htwo : digitValue? '2' = some 2 := by decide +kernel
  have hdigits : Numeral (['٤'] ++ (['_'] ++ ['2'])) 2 42 := .more (.digit hfour) (by simp) htwo
  exact ⟨['+'], _, 42, hstrip, hdigits, .plus 42⟩

/-- Sign, scripts, separator and blanks do not hide an id. -/
theorem mixedId_heeded : strip ((typing mixedId).typed "User ID") ≠ "" ∧
    ∃ filters t, exec (sidebar [] "24h") (typing mixedId) { state := {} } = (.ok filters, t) ∧
      filters.lookup? "user_id" = some (.int 42) := by
  have hblank : strip ((typing mixedId).typed "User ID") ≠ "" := by decide +kernel
  obtain ⟨filters, shown, hexec, hiff, hread, -⟩ :=
    typed_id_heeded_iff (typing mixedId) { state := {} } [] "24h" hblank
  have hid : ¬DenotesNoId mixedId := by
    rintro ⟨k, -, n, hn, hdenotes⟩
    obtain ⟨-, rfl⟩ := denotes_mixedId.unique hdenotes
    exact absurd hn (by decide)
  refine ⟨hblank, filters, _, hexec, ?_⟩
  rcases hiff.mpr hid with ⟨k, n, -, hn, hlookup⟩ | hmem
  · obtain ⟨-, rfl⟩ := denotes_mixedId.unique hn
    exact hlookup
  · exact absurd ((hread 2 42 denotes_mixedId).mp hmem) (by decide)

/-- Zero is no id, and nothing is said of it. -/
theorem zero_not_heeded : strip ((typing "0").typed "User ID") ≠ "" ∧
    ∃ filters shown, exec (sidebar [] "24h") (typing "0") { state := {} } =
        (.ok filters, { state := {}, events := shown }) ∧
      ¬(AppliesId "0" filters ∨ ∃ e ∈ shown, e.function = "warning") := by
  have hid : ((typing "0").selection [] "24h").filters.lookup? "user_id" = none := by
    rw [((typing "0").selection [] "24h").lookup?_setIds.1]
    decide +kernel
  have hsilent : ∀ e ∈ (typing "0").sidebarEvents [] "24h", e.function ≠ "warning" :=
    silent_of_kept (by decide +kernel) [] "24h"
  refine ⟨by decide +kernel, _, _, exec_sidebar_eq [] "24h", ?_⟩
  rw [List.append_nil]
  rintro (⟨k, n, -, -, hn⟩ | ⟨e, he, hwarning⟩)
  · cases hid.symm.trans hn
  · exact hsilent e he hwarning

end Typing
end ChatAudit.Console
