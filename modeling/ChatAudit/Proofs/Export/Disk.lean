import ChatAudit.Export.Save
import Mathlib.Data.List.Basic

/-! What the operations on a disk leave at each place. -/
namespace ChatAudit

namespace Place

@[simp] theorem step_back (here : Place) : here.step ".." = here.tail := by
  simp [step]

theorem step_of_ne {name : String} (here : Place) (h : name ≠ "..") :
    here.step name = name :: here := by
  simp [step, h]

/-- Where names lead from a place. -/
def follow (here : Place) (names : List String) : Place := names.foldl step here

@[simp] theorem follow_nil (here : Place) : here.follow [] = here := rfl

@[simp] theorem follow_cons (here : Place) (name : String) (names : List String) :
    here.follow (name :: names) = (here.step name).follow names := rfl

theorem follow_append (here : Place) (names rest : List String) :
    here.follow (names ++ rest) = (here.follow names).follow rest :=
  List.foldl_append

theorem follow_concat {name : String} (here : Place) (names : List String) (h : name ≠ "..") :
    here.follow (names ++ [name]) = name :: here.follow names := by
  rw [follow_append, follow_cons, step_of_ne _ h, follow_nil]

end Place

namespace Disk
variable {d d' : Disk} {p q : Place}

theorem at?_put (d : Disk) (p q : Place) (n : Node) :
    (d.put p n).at? q =
      if q <:+ d.working then some .directory else if q = p then some n else d.at? q := by
  by_cases hw : q <:+ d.working
  · simp [at?, put, hw]
  · by_cases hq : q = p
    · subst hq
      simp [at?, put, hw]
    · simp [at?, put, hw, hq, List.lookup_cons, beq_eq_false_iff_ne.mpr hq]

theorem at?_of_suffix (h : p <:+ d.working) : d.at? p = some .directory := by
  simp [at?, h]

theorem file?_of_at?_none (h : d.at? p = none) : d.file? p = none := by
  simp only [file?, h]

theorem file?_of_directory (h : d.at? p = some .directory) : d.file? p = none := by
  simp only [file?, h]

theorem file?_eq_of_at? (h : d'.at? p = d.at? p) : d'.file? p = d.file? p := by
  simp only [file?, h]

/-- Only the place itself may look different afterwards, and it is a directory. -/
theorem at?_makeDirectory (h : d.makeDirectory p = .ok d') (q : Place) :
    d'.at? q = if q = p then some .directory else d.at? q := by
  unfold makeDirectory at h
  split at h
  · next hp =>
    obtain rfl := Except.ok.inj h
    split_ifs with hq
    · rw [hq, hp]
    · rfl
  · cases h
  · next hp =>
    obtain rfl := Except.ok.inj h
    rw [at?_put]
    split_ifs with hw hq hq
    · rfl
    · rw [at?_of_suffix hw]
    · rfl
    · rfl

theorem file?_makeDirectory (h : d.makeDirectory p = .ok d') (q : Place) :
    d'.file? q = d.file? q := by
  by_cases hq : q = p
  · subst hq
    have hnew : d'.at? q = some .directory := by simpa using at?_makeDirectory h q
    have hold : d.at? q = some .directory ∨ d.at? q = none := by
      unfold makeDirectory at h
      split at h
      · exact .inl ‹_›
      · cases h
      · exact .inr ‹_›
    rcases hold with hold | hold <;> simp [file?, hnew, hold]
  · exact file?_eq_of_at? (by rw [at?_makeDirectory h, if_neg hq])

theorem walk_cons {here : Place} {name : String} {names : List String} {r : Place × Disk}
    (h : walk here (name :: names) d = .ok r) :
    ∃ d₁, d.makeDirectory (here.step name) = .ok d₁ ∧
      walk (here.step name) names d₁ = .ok r := by
  cases hd : d.makeDirectory (here.step name) with
  | error e => simp [walk, hd, bind, Except.bind] at h
  | ok d₁ => exact ⟨d₁, rfl, by simpa [walk, hd, bind, Except.bind] using h⟩

theorem walk_cons_of_makeDirectory {here : Place} {name : String} (names : List String)
    (h : d.makeDirectory (here.step name) = .ok d') :
    walk here (name :: names) d = walk (here.step name) names d' := by
  simp [walk, h, bind, Except.bind]

theorem walk_append (here : Place) (names rest : List String) (d : Disk) :
    walk here (names ++ rest) d = walk here names d >>= fun r => walk r.1 rest r.2 := by
  induction names generalizing here d with
  | nil => rfl
  | cons name names ih =>
    cases hd : d.makeDirectory (here.step name) with
    | error e => simp [walk, hd, bind, Except.bind]
    | ok d₁ =>
      rw [List.cons_append, walk_cons_of_makeDirectory _ hd, walk_cons_of_makeDirectory _ hd]
      exact ih _ _

/-- A walk ends where its names lead, and leaves every file what it was. -/
theorem walk_spec {here : Place} {names : List String} {r : Place × Disk}
    (h : walk here names d = .ok r) :
    r.1 = here.follow names ∧ ∀ q, r.2.file? q = d.file? q := by
  induction names generalizing here d with
  | nil =>
    obtain rfl := Except.ok.inj h
    exact ⟨rfl, fun _ => rfl⟩
  | cons name names ih =>
    obtain ⟨d₁, hd, hw⟩ := walk_cons h
    obtain ⟨hp, hfile⟩ := ih hw
    exact ⟨hp, fun q => (hfile q).trans (file?_makeDirectory hd q)⟩

/-- A walk keeps every directory. -/
theorem at?_walk_of_directory {here : Place} {names : List String} {r : Place × Disk}
    (h : walk here names d = .ok r) (hq : d.at? q = some .directory) :
    r.2.at? q = some .directory := by
  induction names generalizing here d with
  | nil =>
    obtain rfl := Except.ok.inj h
    exact hq
  | cons name names ih =>
    obtain ⟨d₁, hm, hw⟩ := walk_cons h
    apply ih hw
    rw [at?_makeDirectory hm]
    split_ifs
    · rfl
    · exact hq

/-- A walk that begins in a directory leaves a directory wherever it came along. -/
theorem at?_walk_of_prefix {here : Place} {pre names : List String} {r : Place × Disk}
    (h : walk here names d = .ok r) (hd : d.at? here = some .directory) (hp : pre <+: names) :
    r.2.at? (here.follow pre) = some .directory := by
  induction pre generalizing here names d with
  | nil => exact at?_walk_of_directory h hd
  | cons name pre ih =>
    obtain ⟨rest, rfl⟩ := hp
    obtain ⟨d₁, hm, hw⟩ := walk_cons h
    exact ih hw (by rw [at?_makeDirectory hm, if_pos rfl]) (List.prefix_append pre rest)

/-- A walk changes nothing where it does not come along. -/
theorem at?_walk_of_ne {here : Place} {names : List String} {r : Place × Disk}
    (h : walk here names d = .ok r) (hq : ∀ pre, pre <+: names → q ≠ here.follow pre) :
    r.2.at? q = d.at? q := by
  induction names generalizing here d with
  | nil =>
    obtain rfl := Except.ok.inj h
    rfl
  | cons name names ih =>
    obtain ⟨d₁, hm, hw⟩ := walk_cons h
    have hrest : r.2.at? q = d₁.at? q :=
      ih hw fun pre hpre => hq (name :: pre) (by simpa using hpre)
    have hne : q ≠ here.step name := hq [name] (by simp)
    rw [hrest, at?_makeDirectory hm, if_neg hne]

/-- What is nowhere after a walk was nowhere before it. -/
theorem at?_none_of_walk {here : Place} {names : List String} {r : Place × Disk}
    (h : walk here names d = .ok r) (hq : r.2.at? q = none) : d.at? q = none := by
  induction names generalizing here d with
  | nil =>
    obtain rfl := Except.ok.inj h
    exact hq
  | cons name names ih =>
    obtain ⟨d₁, hm, hw⟩ := walk_cons h
    have hmid := ih hw
    rw [at?_makeDirectory hm] at hmid
    split_ifs at hmid
    exact hmid

theorem makeDirectory_of_file? (h : d.file? p = none) : ∃ d', d.makeDirectory p = .ok d' := by
  unfold makeDirectory
  cases hp : d.at? p with
  | none => exact ⟨_, rfl⟩
  | some n =>
    cases n with
    | directory => exact ⟨_, rfl⟩
    | file content => simp [file?, hp] at h

/-- Only a file can be in the way of a walk. -/
theorem walk_of_file? {here : Place} {names : List String}
    (h : ∀ pre, pre <+: names → d.file? (here.follow pre) = none) :
    ∃ r, walk here names d = .ok r := by
  induction names generalizing here d with
  | nil => exact ⟨_, rfl⟩
  | cons name names ih =>
    obtain ⟨d₁, hm⟩ := makeDirectory_of_file? (h [name] (by simp))
    rw [walk_cons_of_makeDirectory names hm]
    apply ih
    intro pre hpre
    rw [file?_makeDirectory hm]
    exact h (name :: pre) (by simpa using hpre)

theorem at?_start (d : Disk) (path : Path) : d.at? (d.start path) = some .directory := by
  apply at?_of_suffix
  unfold start
  split_ifs
  · exact List.nil_suffix
  · exact List.suffix_rfl

/-- Writing makes one file of the content and leaves the others as they are. -/
theorem file?_write {content : List UInt8} (h : d.write p content = .ok d') :
    d'.file? p = some content ∧ ∀ q, q ≠ p → d'.file? q = d.file? q := by
  unfold write at h
  split at h
  · cases h
  · next hp =>
    obtain rfl := Except.ok.inj h
    have hw : ¬p <:+ d.working := fun hs => hp (at?_of_suffix hs)
    refine ⟨by simp [file?, at?_put, hw], fun q hq => file?_eq_of_at? ?_⟩
    rw [at?_put, if_neg hq]
    split_ifs with hs
    · rw [at?_of_suffix hs]
    · rfl

theorem write_of_at?_none (content : List UInt8) (h : d.at? p = none) :
    d.write p content = .ok (d.put p (.file content)) := by
  simp [write, h]

theorem write_directory (content : List UInt8) (h : d.at? p = some .directory) :
    d.write p content = .error .directory := by
  simp [write, h]

end Disk
end ChatAudit
