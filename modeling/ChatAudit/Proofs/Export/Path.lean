import ChatAudit.Proofs.Export.Disk
import ChatAudit.Proofs.Text.Parts

/-! Which paths lead to a file below the place where they begin. -/
namespace ChatAudit

namespace Place

/-- Whether a place lies in a directory, at any depth. -/
def Inside (p directory : Place) : Prop := directory <:+ p ∧ p ≠ directory

/-- Whether names never step back from where `here` begins. -/
def Stays (here : Place) (names : List String) : Prop :=
  ∀ pre, pre ++ [".."] <+: names → here.follow pre ≠ []

variable {here base : Place} {name : String} {names : List String}

theorem stays_cons : here.Stays (name :: names) ↔
    ¬(name = ".." ∧ here = []) ∧ (here.step name).Stays names := by
  constructor
  · intro h
    constructor
    · rintro ⟨rfl, rfl⟩
      exact h [] (by simp) rfl
    · intro pre hpre
      exact h (name :: pre) (by simpa using hpre)
  · rintro ⟨hstep, hrest⟩ pre hpre hnil
    cases pre with
    | nil =>
      obtain rfl : ".." = name := by simpa using hpre
      exact hstep ⟨rfl, hnil⟩
    | cons n pre =>
      obtain ⟨rfl, hp⟩ := List.cons_prefix_cons.mp hpre
      exact hrest pre hp hnil

theorem stays_of_prefix {pre : List String} (h : here.Stays names) (hp : pre <+: names) :
    here.Stays pre :=
  fun mid hmid => h mid (hmid.trans hp)

theorem step_append (h : ¬(name = ".." ∧ here = [])) :
    step (here ++ base) name = here.step name ++ base := by
  by_cases hn : name = ".."
  · subst hn
    cases here with
    | nil => exact absurd ⟨rfl, rfl⟩ h
    | cons n here => simp
  · simp [step_of_ne _ hn]

/-- Names that never step back from the base lead to the same place above it. -/
theorem follow_append_base (base : Place) (h : here.Stays names) :
    follow (here ++ base) names = here.follow names ++ base := by
  induction names generalizing here with
  | nil => rfl
  | cons name names ih =>
    obtain ⟨hstep, hrest⟩ := stays_cons.mp h
    rw [follow_cons, follow_cons, step_append hstep, ih hrest]

theorem mem_follow {n : String} (h : n ∈ here.follow names) : n ∈ here ∨ n ∈ names := by
  induction names generalizing here with
  | nil => exact .inl h
  | cons name names ih =>
    rcases ih h with hs | hs
    · unfold step at hs
      split_ifs at hs
      · exact .inl (List.mem_of_mem_tail hs)
      · rcases List.mem_cons.mp hs with rfl | hm
        · exact .inr List.mem_cons_self
        · exact .inl hm
    · exact .inr (List.mem_cons_of_mem name hs)

/-- Names without the base among them cannot come back to it. -/
theorem stays_of_mem_follow {n : String} (hn : n ∉ names)
    (h : n ∈ follow (here ++ [n]) names) : here.Stays names := by
  induction names generalizing here with
  | nil =>
    intro pre hpre
    simp at hpre
  | cons name names ih =>
    have hrest : n ∉ names := fun hm => hn (List.mem_cons_of_mem name hm)
    have hstep : ¬(name = ".." ∧ here = []) := by
      rintro ⟨rfl, rfl⟩
      have hback : n ∈ Place.follow [] names := by simpa using h
      rcases mem_follow hback with hm | hm
      · cases hm
      · exact hrest hm
    rw [follow_cons, step_append hstep] at h
    exact stays_cons.mpr ⟨hstep, ih hrest h⟩

end Place

/-- Whether a disk can have an entry of the name. -/
def IsEntryName (n : String) : Prop :=
  '\x00' ∉ n.toList ∧ n.utf8ByteSize ≤ File.maxNameLength

/-- A path that leads to a new file below the place where it begins: it names a file and never
steps back from its beginning, and no directory on the way takes the place of the file. -/
structure Path.Fits (path : Path) : Prop where
  unrooted : path.rooted = false
  entries : ∀ n ∈ path.names, IsEntryName n
  last : ∃ name, path.names.getLast? = some name ∧ name ≠ ".."
  stays : Place.Stays [] path.names
  free : ∀ pre, pre <+: path.names.dropLast → Place.follow [] pre ≠ Place.follow [] path.names

/-- A name without slashes fits, unless it is empty or dots. -/
theorem Path.fits_of_plain {name : String} (hslash : '/' ∉ name.toList) (hne : name ≠ "")
    (hdot : name ≠ ".") (hdots : name ≠ "..") (he : IsEntryName name) :
    (Path.ofText name).Fits := by
  have hpath : Path.ofText name = ⟨false, [name]⟩ := by
    have hrooted : name.toList.head? ≠ some '/' := fun h => hslash (List.mem_of_head? h)
    have hempty : name.toList ≠ [] := by simpa using hne
    have hhere : name.toList ≠ ['.'] := fun h => hdot (String.toList_inj.mp h)
    simp [ofText, Text.splitOn_of_not_mem hslash, hrooted, hempty, hhere]
  rw [hpath]
  refine ⟨rfl, by simpa using he, ⟨name, rfl, hdots⟩, ?_, ?_⟩
  · exact Place.stays_cons.mpr ⟨fun h => hdots h.1, fun pre hpre => by simp at hpre⟩
  · intro pre hpre
    obtain rfl : pre = [] := by simpa using hpre
    simp [Place.step_of_ne _ hdots]

/-- The place that a path leads to. -/
def Disk.placeOf (d : Disk) (path : Path) : Place := (d.start path).follow path.names

namespace Path
variable {directory file : Path}

theorem join_of_unrooted (h : file.rooted = false) :
    directory.join file = ⟨directory.rooted, directory.names ++ file.names⟩ := by
  simp [join, h]

theorem join_of_rooted (h : file.rooted = true) : directory.join file = file := by
  simp [join, h]

/-- Below a name that it does not mention, a path leads only if it begins there. -/
theorem unrooted_of_mem_placeOf {d : Disk} {n : String} (hn : n ∉ file.names)
    (h : n ∈ d.placeOf (directory.join file)) : file.rooted = false := by
  by_contra hrooted
  replace hrooted : file.rooted = true := by simpa using hrooted
  rw [join_of_rooted hrooted, Disk.placeOf, Disk.start, if_pos hrooted] at h
  rcases Place.mem_follow h with hm | hm
  · cases hm
  · exact hn hm

theorem placeOf_join (d : Disk) (h : file.rooted = false) :
    d.placeOf (directory.join file) = (d.placeOf directory).follow file.names := by
  rw [join_of_unrooted h]
  exact Place.follow_append _ _ _

end Path

namespace Path.Fits
variable {path : Path}

/-- A path that fits leads somewhere, as seen from its beginning. -/
theorem follow_ne_nil (h : path.Fits) : Place.follow [] path.names ≠ [] := by
  obtain ⟨name, hn, hlast⟩ := h.last
  obtain ⟨init, hinit⟩ := List.getLast?_eq_some_iff.mp hn
  rw [hinit, Place.follow_concat [] init hlast]
  exact List.cons_ne_nil _ _

/-- The way to a file that fits does not come along the place of the file. -/
theorem follow_ne (h : path.Fits) (base : Place) {pre : List String}
    (hpre : pre <+: path.names.dropLast) :
    base.follow path.names ≠ Place.follow [] pre ++ base := by
  have hfollow : base.follow path.names = Place.follow [] path.names ++ base :=
    Place.follow_append_base base h.stays
  rw [hfollow]
  exact fun heq => h.free pre hpre (List.append_cancel_right heq).symm

theorem placeOf_join (h : path.Fits) (d : Disk) (directory : Path) :
    d.placeOf (directory.join path) = Place.follow [] path.names ++ d.placeOf directory := by
  rw [Path.placeOf_join d h.unrooted]
  exact Place.follow_append_base _ h.stays

theorem inside (h : path.Fits) (d : Disk) (directory : Path) :
    (d.placeOf (directory.join path)).Inside (d.placeOf directory) := by
  rw [h.placeOf_join]
  refine ⟨List.suffix_append _ _, fun heq => h.follow_ne_nil ?_⟩
  simpa using heq

end Path.Fits

end ChatAudit
