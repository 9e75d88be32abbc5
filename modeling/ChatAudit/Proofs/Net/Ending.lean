import ChatAudit.Proofs.Net.Reach

/-! What addresses end in, whatever they start with. -/
namespace ChatAudit.Url
open Text

/-- Whether a path stays as it is at the end of every other text. Its first segment is long enough
not to become a dot segment. -/
structure Rooted (p : List Char) : Prop where
  segments : ∃ first rest, p = first ++ '/' :: rest ∧ '/' ∉ first ∧ 2 < first.length ∧ DotFree rest
  safe : ∀ c ∈ p, pathSafe c

variable {u v : Url} {scheme authority p t : List Char} {query fragment : Option (List Char)}

theorem suffix_resolveDots {rest : List Char} (h : DotFree rest) (t : List Char) :
    rest <:+ resolveDots (t ++ '/' :: rest) := by
  have hsuffix := suffix_joinWith '/' ((splitOn '/' t).foldl dotStep []).reverse
    (splitOn_ne_nil '/' rest)
  rw [joinWith_splitOn] at hsuffix
  rw [resolveDots_eq, splitOn_append_cons, List.foldl_append, foldl_dotStep_of_plain h,
    List.reverse_append, List.reverse_reverse]
  exact hsuffix

theorem querySafe_of_pathSafe {c : Char} (h : pathSafe c) : querySafe c := by
  simp only [pathSafe, querySafe, isSafeBut, List.contains_eq_mem, List.mem_cons, List.not_mem_nil,
    or_false, Bool.and_eq_true, decide_eq_true_eq, Bool.not_eq_true', decide_eq_false_iff_not,
    not_or] at h ⊢
  exact ⟨h.1, h.2.1, h.2.2.1, h.2.2.2.1, h.2.2.2.2.1⟩

namespace Rooted
variable (hp : Rooted p)
include hp

theorem exists_cons : ∃ c rest, p = c :: rest ∧ c ≠ '/' := by
  obtain ⟨first, rest, rfl, hslash, hlong, -⟩ := hp.segments
  cases first with
  | nil => cases hlong
  | cons c first => exact ⟨c, _, rfl, fun hc => hslash (hc ▸ List.mem_cons_self)⟩

theorem dotFree (h : '/' ∉ t) : DotFree (t ++ p) := by
  obtain ⟨first, rest, rfl, hslash, hlong, hrest⟩ := hp.segments
  have hplain : Plain (t ++ first) := by
    constructor <;> intro heq <;> have hlength := congrArg List.length heq <;>
      simp only [List.length_append, List.length_cons, List.length_nil] at hlength <;> omega
  have hfirst : '/' ∉ t ++ first := by simp [h, hslash]
  rw [← List.append_assoc]
  exact dotFree_append.mpr ⟨(dotFree_of_not_mem hfirst).mpr hplain, hrest⟩

theorem suffix_resolveDots (t : List Char) : p <:+ resolveDots (t ++ p) := by
  by_cases ht : '/' ∈ t
  · -- after the last slash nothing is left to resolve
    obtain ⟨bs, as, heq, hlast⟩ := List.eq_append_cons_of_mem (List.mem_reverse.mpr ht)
    obtain rfl : t = as.reverse ++ '/' :: bs.reverse := by
      rw [← List.reverse_reverse t, heq]
      simp
    have hsuffix := Url.suffix_resolveDots (hp.dotFree (mt List.mem_reverse.mp hlast)) as.reverse
    rw [List.append_assoc, List.cons_append]
    exact (List.suffix_append _ _).trans hsuffix
  · rw [resolveDots_of_dotFree (hp.dotFree ht)]
    exact List.suffix_append _ _

theorem suffix_path (h : ofParts scheme authority (t ++ p) query fragment = .ok u) :
    p <:+ u.path := by
  have hnormalize {cs : List Char} (hs : p <:+ cs) : p <:+ Percent.normalize pathSafe cs :=
    Percent.suffix_normalize (by decide) hp.safe hs
  unfold ofParts at h
  simp only [bind, Except.bind, pure, Except.pure] at h
  split at h
  · cases h
  · split at h
    · cases h
    · split at h
      · cases h
      · obtain rfl := Except.ok.inj h
        dsimp only
        split_ifs
        · exact hnormalize (hp.suffix_resolveDots t)
        · exact hnormalize (List.suffix_append _ _)

/-- Path and query together end in what was put at their end. -/
theorem suffix_target (h : u.withTarget (t ++ p) = .ok v) : p <:+ v.target := by
  unfold withTarget at h
  by_cases ht : '?' ∈ t
  · obtain ⟨before, rest, rfl, hbefore⟩ := List.eq_append_cons_of_mem ht
    rw [List.append_assoc, List.cons_append, cutAt_append hbefore] at h
    obtain ⟨-, hquery, -⟩ := ofParts_spec (withParts_eq_ok_iff.mp h).2
    have hsuffix : p <:+ Percent.normalize querySafe (rest ++ p) :=
      Percent.suffix_normalize (by decide) (fun c hc => querySafe_of_pathSafe (hp.safe c hc))
        (List.suffix_append _ _)
    rw [target, hquery]
    exact hsuffix.trans ((List.suffix_cons _ _).trans (List.suffix_append _ _))
  · have hquery : '?' ∉ t ++ p := by
      intro hm
      rcases List.mem_append.mp hm with hm | hm
      · exact ht hm
      · exact absurd (hp.safe '?' hm) (by decide)
    rw [cutAt_of_not_mem hquery] at h
    have hparts := (withParts_eq_ok_iff.mp h).2
    have hpath := hp.suffix_path hparts
    obtain ⟨-, hnone, -⟩ := ofParts_spec hparts
    obtain ⟨c, rest, rfl, -⟩ := hp.exists_cons
    have hne : v.path ≠ [] := by
      rintro heq
      rw [heq] at hpath
      cases List.suffix_nil.mp hpath
    rwa [target_of_path hnone hne]

end Rooted

/-- The target of an address is never empty. -/
theorem target_ne_nil (u : Url) : u.target ≠ [] := by
  unfold target
  split_ifs with h
  · simp
  · simp [List.isEmpty_iff.not.mp h]

/-- Where one path can be put at the end, so can every other one that is no longer. -/
theorem withTarget_of_length {c : Char} {rest rest' : List Char} (ht : t ≠ [])
    (h : u.withTarget (t ++ c :: rest) = .ok v) (hp : '?' ∉ c :: rest) (hp' : '?' ∉ c :: rest')
    (hlength : rest'.length ≤ rest.length) : ∃ v', u.withTarget (t ++ c :: rest') = .ok v' := by
  unfold withTarget at h ⊢
  by_cases hm : '?' ∈ t
  · obtain ⟨before, after, rfl, hbefore⟩ := List.eq_append_cons_of_mem hm
    rw [List.append_assoc, List.cons_append, cutAt_append hbefore] at h ⊢
    obtain ⟨-, hpath, hquery, -⟩ := (withParts_eq_ok_iff.mp h).1
    have hshort : ((some (after ++ c :: rest')).getD []).length ≤ maxLength := by
      simp only [Option.getD_some, List.length_append, List.length_cons] at hquery ⊢
      omega
    obtain ⟨v', hv', -⟩ :=
      withParts_of_replaces h ⟨rfl, rfl, rfl⟩ (replaces_of_take rfl) hpath hshort
    exact ⟨v', hv'⟩
  · rw [cutAt_of_not_mem (List.not_mem_append hm hp)] at h
    rw [cutAt_of_not_mem (List.not_mem_append hm hp')]
    obtain ⟨-, hpath, hquery, -⟩ := (withParts_eq_ok_iff.mp h).1
    have hshort : (t ++ c :: rest').length ≤ maxLength := by
      simp only [List.length_append, List.length_cons] at hpath ⊢
      omega
    have htake : (t ++ c :: rest').take 2 = (t ++ c :: rest).take 2 := by
      rcases t with _ | ⟨d, _ | ⟨e, t⟩⟩
      · exact absurd rfl ht
      · rfl
      · rfl
    obtain ⟨v', hv', -⟩ :=
      withParts_of_replaces h ⟨rfl, rfl, rfl⟩ (replaces_of_take htake) hshort hquery
    exact ⟨v', hv'⟩

end ChatAudit.Url
