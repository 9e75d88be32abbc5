import ChatAudit.Proofs.Net.Path

/-! What becomes of a path when a reference is joined to a base address. -/
namespace ChatAudit.Url
open Text

variable {u v base : Url} {scheme authority path rest target : List Char}
  {query fragment : Option (List Char)}

/-- What an address has from its parts, whatever its host and port are. -/
theorem ofParts_spec (h : ofParts scheme authority path query fragment = .ok u) :
    u.scheme = scheme.map Char.toLower ∧ u.query = query.map (Percent.normalize querySafe) ∧
      (scheme ≠ [] → u.path = canonicalPath path) := by
  unfold ofParts at h
  simp only [bind, Except.bind, pure, Except.pure] at h
  split at h
  · cases h
  · split at h
    · cases h
    · split at h
      · cases h
      · obtain rfl := Except.ok.inj h
        refine ⟨rfl, rfl, fun hs => ?_⟩
        simp [canonicalPath, hs]

/-- Every path is safe once it is part of an address. -/
theorem pathSafe_of_ofParts (h : ofParts scheme authority path query fragment = .ok u) :
    ∀ c ∈ u.path, pathSafe c := by
  unfold ofParts at h
  simp only [bind, Except.bind, pure, Except.pure] at h
  split at h
  · cases h
  · split at h
    · cases h
    · split at h
      · cases h
      · obtain rfl := Except.ok.inj h
        intro c hc
        exact pathSafe_of_mem_normalize hc

theorem exists_ofParts_of_read {s : String} (h : read s = .ok u) :
    ∃ scheme authority path query fragment,
      ofParts scheme authority path query fragment = .ok u := by
  unfold read at h
  dsimp only at h
  split_ifs at h
  split at h
  · cases h
  · exact ⟨_, _, _, _, _, h⟩

theorem canonical_of_read {s : String} (h : read s = .ok u) (hs : u.scheme ≠ []) :
    Canonical u.path := by
  obtain ⟨scheme, authority, path, query, fragment, hparts⟩ := exists_ofParts_of_read h
  obtain ⟨hscheme, -, hpath⟩ := ofParts_spec hparts
  rw [hpath (by rintro rfl; exact hs hscheme)]
  exact canonical_canonicalPath path

theorem withParts_spec (h : u.withParts path query = .ok v) (hs : u.scheme ≠ []) :
    v.path = canonicalPath path ∧ v.query = query.map (Percent.normalize querySafe) ∧
      v.scheme ≠ [] := by
  unfold withParts at h
  dsimp only at h
  split at h
  · cases h
  · obtain ⟨hscheme, hquery, hpath⟩ := ofParts_spec h
    exact ⟨hpath hs, hquery, by rw [hscheme]; simpa using hs⟩

theorem withTarget_spec (h : u.withTarget target = .ok v) (hs : u.scheme ≠ [])
    (ht : '?' ∉ target) :
    v.path = canonicalPath target ∧ v.query = none ∧ v.scheme ≠ [] := by
  unfold withTarget at h
  rw [cutAt_of_not_mem ht] at h
  exact withParts_spec h hs

/-- The path without a slash at its end. -/
def stem (u : Url) : List Char :=
  if u.path.getLast? = some '/' then u.path.dropLast else u.path

theorem canonical_stem (h : Canonical u.path) : Canonical u.stem := by
  unfold stem
  split_ifs with hlast
  · obtain ⟨init, hinit⟩ := List.getLast?_eq_some_iff.mp hlast
    rw [hinit] at h ⊢
    rw [List.dropLast_concat]
    exact (canonical_append.mp h).1
  · exact h

theorem target_of_path (hq : u.query = none) (hp : u.path ≠ []) : u.target = u.path := by
  simp [target, hq, hp]

/-- A base address keeps its path up to a slash at the end. -/
theorem asBase_spec (h : u.asBase = .ok base) (hs : u.scheme ≠ []) (hq : u.query = none)
    (hc : Canonical u.path) :
    base.target = u.stem ++ ['/'] ∧ base.scheme ≠ [] := by
  by_cases hp : u.path = []
  · have ht : u.target = ['/'] := by simp [target, hq, hp]
    obtain rfl : u = base := by simpa [asBase, ht] using h
    exact ⟨by simp [ht, stem, hp], hs⟩
  · unfold asBase at h
    rw [target_of_path hq hp] at h
    by_cases hlast : u.path.getLast? = some '/'
    · obtain rfl : u = base := by simpa [hlast] using h
      obtain ⟨init, hinit⟩ := List.getLast?_eq_some_iff.mp hlast
      exact ⟨by simp [target_of_path hq hp, stem, hinit], hs⟩
    · have hall : Canonical (u.path ++ ['/']) :=
        canonical_append.mpr ⟨hc, by simp [DotFree, Plain], by simp⟩
      obtain ⟨hpath, hquery, hscheme⟩ := withTarget_spec (by simpa [hlast] using h) hs
        (not_mem_of_canonical hall)
      rw [canonicalPath_of_canonical hall] at hpath
      refine ⟨?_, hscheme⟩
      rw [target_of_path hquery (by simp [hpath]), hpath]
      simp [stem, hlast]

theorem splitScheme_of_slash (cs : List Char) : splitScheme ('/' :: cs) = ([], '/' :: cs) := by
  simp [splitScheme]

theorem splitHostPart_of_ne {c : Char} (h : c ≠ '/') (cs : List Char) :
    splitHostPart ('/' :: c :: cs) = ([], '/' :: c :: cs) := by
  simp [splitHostPart, h]

/-- A path on its own is taken as it is, dot segments and all. -/
theorem ofParts_of_path {c : Char} (hc : c ≠ '/') (rest : List Char) :
    ofParts [] [] ('/' :: c :: rest) none none =
      .ok ⟨[], [], [], none, Percent.normalize pathSafe ('/' :: c :: rest), none, none⟩ := by
  have hauthority : splitAuthority [] = ([], [], []) := by decide
  have hhost : Host.normalize [] = .ok [] := rfl
  have hport : readPort [] [] = .ok none := rfl
  have hcheck : checkPath false false ('/' :: c :: rest) = .ok () := by simp [checkPath, hc]
  simp [ofParts, hauthority, hhost, hport, hcheck, Percent.normalize, bind, Except.bind,
    Except.mapError, pure, Except.pure]

theorem find?_isControl_of_safe {cs : List Char} (hsafe : ∀ c ∈ cs, pathSafe c) :
    cs.find? isControl = none := by
  rw [List.find?_eq_none]
  intro c hc
  have hsafe' := hsafe c hc
  simp only [pathSafe, isSafeBut, Bool.and_eq_true, decide_eq_true_eq] at hsafe'
  simp only [isControl, Bool.or_eq_true, decide_eq_true_eq, beq_iff_eq]
  omega

/-- A path of safe characters is an address without any other part. -/
theorem read_of_path {s : String} {c : Char} (hs : s.toList = '/' :: c :: rest) (hc : c ≠ '/')
    (hsafe : ∀ c ∈ s.toList, pathSafe c) :
    read s = if maxLength < s.toList.length then .error .tooLong
      else .ok ⟨[], [], [], none, s.toList, none, none⟩ := by
  have hfragment : '#' ∉ s.toList := fun hm => absurd (hsafe '#' hm) (by decide)
  have hquery : '?' ∉ s.toList := fun hm => absurd (hsafe '?' hm) (by decide)
  unfold read
  dsimp only
  rw [find?_isControl_of_safe hsafe, cutAt_of_not_mem hfragment]
  dsimp only
  split_ifs
  · rfl
  · rw [hs, splitScheme_of_slash]
    dsimp only
    rw [splitHostPart_of_ne hc]
    dsimp only
    rw [← hs, cutAt_of_not_mem hquery, hs]
    dsimp only
    rw [ofParts_of_path hc, ← hs, Percent.normalize_of_forall hsafe]

end ChatAudit.Url
