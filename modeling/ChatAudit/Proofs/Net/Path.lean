import ChatAudit.Proofs.Net.Percent
import ChatAudit.Proofs.Text.Parts

/-! The form of paths in addresses: no dot segments, and escapes where they are needed. -/
namespace ChatAudit.Url
open Text

/-- Whether a segment has no meaning of its own. -/
def Plain (s : List Char) : Prop := s ≠ ['.'] ∧ s ≠ ['.', '.']

/-- Whether a path has no dot segments. -/
def DotFree (path : List Char) : Prop := ∀ s ∈ splitOn '/' path, Plain s

/-- What a segment does to the segments before it, last one first. -/
def dotStep (done : List (List Char)) (s : List Char) : List (List Char) :=
  if s = ['.'] then done
  else if s = ['.', '.'] then if done = [[]] then done else done.tail
  else s :: done

variable {path rest s : List Char} {done segments : List (List Char)}

theorem resolveDots_eq (path : List Char) :
    resolveDots path = joinWith '/' ((splitOn '/' path).foldl dotStep []).reverse := rfl

theorem dotStep_of_plain (h : Plain s) : dotStep done s = s :: done := by
  simp [dotStep, h.1, h.2]

theorem foldl_dotStep_of_plain (h : ∀ s ∈ segments, Plain s) :
    segments.foldl dotStep done = segments.reverse ++ done := by
  induction segments generalizing done with
  | nil => rfl
  | cons s segments ih =>
    rw [List.foldl_cons, dotStep_of_plain (h s List.mem_cons_self),
      ih fun t ht => h t (List.mem_cons_of_mem s ht)]
    simp

/-- What is left at the end is plain and was there before. -/
theorem mem_foldl_dotStep (h : s ∈ segments.foldl dotStep done) :
    s ∈ done ∨ s ∈ segments ∧ Plain s := by
  induction segments generalizing done with
  | nil => exact .inl h
  | cons t segments ih =>
    rcases ih h with hm | ⟨hm, hp⟩
    · unfold dotStep at hm
      split_ifs at hm with h1 h2 h3
      · exact .inl hm
      · exact .inl hm
      · exact .inl (List.mem_of_mem_tail hm)
      · rcases List.mem_cons.mp hm with rfl | hm
        · exact .inr ⟨List.mem_cons_self, h1, h2⟩
        · exact .inl hm
    · exact .inr ⟨List.mem_cons_of_mem t hm, hp⟩

theorem resolveDots_of_dotFree (h : DotFree path) : resolveDots path = path := by
  rw [resolveDots_eq, foldl_dotStep_of_plain h, List.append_nil, List.reverse_reverse,
    joinWith_splitOn]

theorem dotFree_resolveDots (path : List Char) : DotFree (resolveDots path) := by
  rw [resolveDots_eq]
  by_cases hnil : (splitOn '/' path).foldl dotStep [] = []
  · rw [hnil]
    simp [DotFree, joinWith, Plain]
  · have hsegments : ∀ s ∈ ((splitOn '/' path).foldl dotStep []).reverse,
        s ∈ splitOn '/' path ∧ Plain s := by
      intro s hs
      rcases mem_foldl_dotStep (List.mem_reverse.mp hs) with hm | hm
      · cases hm
      · exact hm
    rw [DotFree, splitOn_joinWith (by simpa using hnil)
      fun s hs => not_mem_of_mem_splitOn (hsegments s hs).1]
    exact fun s hs => (hsegments s hs).2

theorem dotFree_append : DotFree (path ++ '/' :: rest) ↔ DotFree path ∧ DotFree rest := by
  simp only [DotFree, splitOn_append_cons, List.mem_append]
  exact ⟨fun h => ⟨fun s hs => h s (.inl hs), fun s hs => h s (.inr hs)⟩,
    fun h s hs => hs.elim (h.1 s) (h.2 s)⟩

theorem dotFree_of_not_mem (h : '/' ∉ s) : DotFree s ↔ Plain s := by
  simp [DotFree, splitOn_of_not_mem h]

/-- A dot at the end is dropped. -/
theorem resolveDots_append_dot (h : DotFree path) : resolveDots (path ++ "/.".toList) = path := by
  have hsplit : splitOn '/' (path ++ "/.".toList) = splitOn '/' path ++ [['.']] :=
    splitOn_append_cons '/' path ['.']
  rw [resolveDots_eq, hsplit, List.foldl_append, foldl_dotStep_of_plain h]
  simp [dotStep, joinWith_splitOn]

/-- Two dots at the end take the segment before them away. -/
theorem resolveDots_append_dots (h : DotFree path) (hs : '/' ∉ s) (hplain : Plain s) :
    resolveDots (path ++ '/' :: s ++ "/..".toList) = path := by
  have hsplit : splitOn '/' (path ++ '/' :: s ++ "/..".toList) =
      splitOn '/' path ++ [s] ++ [['.', '.']] := by
    have hlast : splitOn '/' (path ++ '/' :: s ++ "/..".toList) =
        splitOn '/' (path ++ '/' :: s) ++ [['.', '.']] :=
      splitOn_append_cons '/' (path ++ '/' :: s) ['.', '.']
    rw [hlast, splitOn_append_cons, splitOn_of_not_mem hs]
  have hne : (splitOn '/' path).reverse ≠ [] := by simpa using splitOn_ne_nil '/' path
  rw [resolveDots_eq, hsplit, List.foldl_append, List.foldl_append, foldl_dotStep_of_plain h,
    List.append_nil, List.foldl_cons, List.foldl_nil, List.foldl_cons, List.foldl_nil,
    dotStep_of_plain hplain]
  simp [dotStep, hne, joinWith_splitOn]

section Escapes
variable {c : Char}

theorem pathSafe_of_isUnreserved (h : Percent.isUnreserved c) : pathSafe c := by
  have hlist : c ∉ ['"', '#', '<', '>', '?', '\x60', '\x7b', '\x7d'] := by
    intro hm
    simp only [List.mem_cons, List.not_mem_nil, or_false] at hm
    rcases hm with rfl | rfl | rfl | rfl | rfl | rfl | rfl | rfl <;> exact absurd h (by decide)
  have hrange : 0x20 < c.toNat ∧ c.toNat < 0x7f := by
    have halphanum : c.isAlphanum = (decide ('A'.val ≤ c.val ∧ c.val ≤ 'Z'.val) ||
        decide ('a'.val ≤ c.val) && decide (c.val ≤ 'z'.val) ||
        decide ('0'.val ≤ c.val) && decide (c.val ≤ '9'.val)) := rfl
    simp only [Percent.isUnreserved, halphanum, Bool.or_eq_true, Bool.and_eq_true,
      decide_eq_true_eq, beq_iff_eq, UInt32.le_iff_toNat_le, Char.reduceVal,
      UInt32.reduceToNat] at h
    have hval : c.val.toNat = c.toNat := rfl
    rcases h with (((((h | h) | h) | rfl) | rfl) | rfl) | rfl
    · omega
    · omega
    · omega
    all_goals decide
  simp [pathSafe, isSafeBut, hrange, hlist]

theorem pathSafe_of_mem_normalize (h : c ∈ Percent.normalize pathSafe path) : pathSafe c := by
  rcases Percent.mem_normalize h with hs | rfl | hu
  · exact hs
  · decide
  · exact pathSafe_of_isUnreserved hu

/-- Escapes do not make dot segments. -/
theorem dotFree_normalize (h : DotFree path) : DotFree (Percent.normalize pathSafe path) := by
  intro s hs
  have hslash : ∀ d, d ≠ '/' →
      '/' ∉ (if Percent.isUnreserved d || pathSafe d then [d] else Percent.escape d) := by
    intro d hd hm
    split_ifs at hm
    · exact hd (List.mem_singleton.mp hm).symm
    · rcases Percent.mem_escape hm with hc | hc <;> exact absurd hc (by decide)
  rw [Percent.normalize_eq_flatMap (by decide), splitOn_flatMap (by decide) hslash] at hs
  obtain ⟨t, ht, rfl⟩ := List.mem_map.mp hs
  rw [← Percent.normalize_eq_flatMap (by decide)]
  have hplain := h t ht
  constructor <;> intro heq <;>
    rw [Percent.normalize_eq_of_not_mem (by rw [heq]; decide)] at heq
  · exact hplain.1 heq
  · exact hplain.2 heq

end Escapes

/-- The form in which addresses keep a path. -/
def canonicalPath (path : List Char) : List Char := Percent.normalize pathSafe (resolveDots path)

def Canonical (path : List Char) : Prop := DotFree path ∧ ∀ c ∈ path, pathSafe c

/-- The form can be computed. -/
theorem canonical_of_all
    (hd : (splitOn '/' path).all fun s => s != ['.'] && s != ['.', '.'])
    (hs : path.all pathSafe) : Canonical path := by
  constructor
  · intro s hm
    have hplain := List.all_eq_true.mp hd s hm
    simpa only [Plain, Bool.and_eq_true, bne_iff_ne] using hplain
  · exact List.all_eq_true.mp hs

theorem canonical_canonicalPath (path : List Char) : Canonical (canonicalPath path) :=
  ⟨dotFree_normalize (dotFree_resolveDots path), fun _ hc => pathSafe_of_mem_normalize hc⟩

theorem normalize_of_canonical (h : Canonical path) : Percent.normalize pathSafe path = path :=
  Percent.normalize_of_forall h.2

theorem canonicalPath_of_canonical (h : Canonical path) : canonicalPath path = path := by
  rw [canonicalPath, resolveDots_of_dotFree h.1, normalize_of_canonical h]

theorem canonicalPath_append_dot (h : Canonical path) :
    canonicalPath (path ++ "/.".toList) = path := by
  rw [canonicalPath, resolveDots_append_dot h.1, normalize_of_canonical h]

theorem canonicalPath_append_dots (h : Canonical path) (hs : '/' ∉ s) (hplain : Plain s) :
    canonicalPath (path ++ '/' :: s ++ "/..".toList) = path := by
  rw [canonicalPath, resolveDots_append_dots h.1 hs hplain, normalize_of_canonical h]

/-- A canonical path ends before any query. -/
theorem not_mem_of_canonical (h : Canonical path) : '?' ∉ path :=
  fun hm => absurd (h.2 '?' hm) (by decide)

theorem canonical_append : Canonical (path ++ '/' :: rest) ↔ Canonical path ∧ Canonical rest := by
  have hslash : pathSafe '/' = true := by decide
  simp only [Canonical, dotFree_append, List.forall_mem_append, List.forall_mem_cons, hslash,
    true_and]
  exact ⟨fun h => ⟨⟨h.1.1, h.2.1⟩, h.1.2, h.2.2⟩, fun h => ⟨⟨h.1.1, h.2.1⟩, h.1.2, h.2.2⟩⟩

end ChatAudit.Url
