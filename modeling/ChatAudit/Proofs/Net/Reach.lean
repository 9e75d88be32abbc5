import ChatAudit.Proofs.Net.Join

/-! When an address can be put together from another one and a new path. -/
namespace ChatAudit.Url
open Text

variable {u v u' : Url} {scheme authority path path' : List Char}
  {query query' fragment : Option (List Char)}

/-- Whether two addresses differ in path and query at most. -/
def SameSite (u v : Url) : Prop :=
  u.scheme = v.scheme ∧ u.authority = v.authority ∧ u.fragment = v.fragment

/-- Whether an address that can have the first path can have the second one. -/
def Replaces (path' path : List Char) (scheme : List Char) : Prop :=
  ∀ hasAuthority, checkPath (!scheme.isEmpty) hasAuthority path = .ok () →
    checkPath (!scheme.isEmpty) hasAuthority path' = .ok ()

/-- Only the first character of a path matters for whether it can follow an authority. -/
theorem replaces_of_head (hs : scheme ≠ []) (hhead : path'.head? = path.head?) :
    Replaces path' path scheme := by
  have hempty : path' = [] ↔ path = [] := by
    rw [← List.head?_eq_none_iff, hhead, List.head?_eq_none_iff]
  have hscheme : (!scheme.isEmpty) = true := by simpa using hs
  have hiff {hasAuthority : Bool} {path : List Char} :
      checkPath true hasAuthority path = .ok () ↔
        (hasAuthority = true → path ≠ [] → path.head? = some '/') := by
    unfold checkPath
    cases hasAuthority with
    | false => simp
    | true => by_cases hp : path = [] <;> by_cases hh : path.head? = some '/' <;> simp [hp, hh]
  intro hasAuthority
  rw [hscheme, hiff, hiff, hhead]
  exact fun h ha hp => h ha (mt hempty.mpr hp)

/-- No more than two characters ever matter. -/
theorem replaces_of_take (h : path'.take 2 = path.take 2) : Replaces path' path scheme := by
  have hhead : path'.head? = path.head? := by
    have htake (cs : List Char) : cs.head? = (cs.take 2).head? := by cases cs <;> rfl
    rw [htake path', h, ← htake path]
  have hempty : path'.isEmpty = path.isEmpty := by
    rw [Bool.eq_iff_iff, List.isEmpty_iff, List.isEmpty_iff, ← List.head?_eq_none_iff, hhead,
      List.head?_eq_none_iff]
  intro hasAuthority
  unfold checkPath
  rw [h, hhead, hempty]
  exact id

theorem ofParts_of_replaces (h : ofParts scheme authority path query fragment = .ok u)
    (hpath : Replaces path' path scheme) (query' : Option (List Char)) :
    ∃ v, ofParts scheme authority path' query' fragment = .ok v ∧ SameSite v u := by
  unfold ofParts at h ⊢
  simp only [bind, Except.bind, pure, Except.pure] at h ⊢
  split at h
  · cases h
  · split at h
    · cases h
    · split at h
      · cases h
      · next hcheck =>
        obtain rfl := Except.ok.inj h
        rw [hpath _ hcheck]
        exact ⟨_, rfl, rfl, rfl, rfl⟩

theorem withParts_eq_ok_iff : u.withParts path query = .ok v ↔
    (u.authority.length ≤ maxLength ∧ path.length ≤ maxLength ∧
        (query.getD []).length ≤ maxLength ∧ (u.fragment.getD []).length ≤ maxLength) ∧
      ofParts u.scheme u.authority path query u.fragment = .ok v := by
  unfold withParts
  dsimp only
  split
  · next p hp =>
    have hlong := List.find?_some hp
    have hmem := List.mem_of_find?_eq_some hp
    simp only [List.mem_cons, List.not_mem_nil, or_false] at hmem
    refine iff_of_false (by simp) fun h => ?_
    rcases hmem with rfl | rfl | rfl | rfl <;> simp only [decide_eq_true_eq] at hlong <;> omega
  · next hnone =>
    have hshort : u.authority.length ≤ maxLength ∧ path.length ≤ maxLength ∧
        (query.getD []).length ≤ maxLength ∧ (u.fragment.getD []).length ≤ maxLength := by
      simpa [List.find?_eq_none] using hnone
    exact (and_iff_right hshort).symm

/-- Where one path can be put in, so can every other one that replaces it and keeps to the limit. -/
theorem withParts_of_replaces (h : u.withParts path query = .ok v) (hu : SameSite u' u)
    (hreplaces : Replaces path' path u.scheme) (hpath : path'.length ≤ maxLength)
    (hquery : (query'.getD []).length ≤ maxLength) :
    ∃ v', u'.withParts path' query' = .ok v' ∧ SameSite v' v := by
  obtain ⟨hscheme, hauthority, hfragment⟩ := hu
  obtain ⟨hlength, hparts⟩ := withParts_eq_ok_iff.mp h
  obtain ⟨v', hv', hsame⟩ := ofParts_of_replaces hparts hreplaces query'
  refine ⟨v', withParts_eq_ok_iff.mpr ⟨?_, ?_⟩, hsame⟩
  · rw [hauthority, hfragment]
    exact ⟨hlength.1, hpath, hquery, hlength.2.2.2⟩
  · rw [hscheme, hauthority, hfragment]
    exact hv'

end ChatAudit.Url
