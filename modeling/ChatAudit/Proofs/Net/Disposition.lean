import ChatAudit.Net.Disposition
import ChatAudit.Proofs.Net.Path
import ChatAudit.Proofs.Charset.Utf8
import Mathlib.Data.List.Infix
import Mathlib.Tactic.IntervalCases

/-! Which file name a header tells: a plain one as it stands, an extended one with its escapes. -/
namespace ChatAudit

namespace Text
variable {cs : List Char}

/-- Neither end of the text is blank. -/
structure Trimmed (cs : List Char) : Prop where
  first : ∀ c ∈ cs.head?, isBlank c = false
  last : ∀ c ∈ cs.getLast?, isBlank c = false

instance (cs : List Char) : Decidable (Trimmed cs) :=
  decidable_of_iff
    ((cs.head?.all fun c => !isBlank c) = true ∧ (cs.getLast?.all fun c => !isBlank c) = true) <| by
      simp only [Option.all_eq_true, Bool.not_eq_true']
      exact ⟨fun h => ⟨h.1, h.2⟩, fun h => ⟨h.first, h.last⟩⟩

theorem dropWhile_of_head? {p : Char → Bool} (h : ∀ c ∈ cs.head?, p c = false) :
    cs.dropWhile p = cs := by
  cases cs with
  | nil => rfl
  | cons c cs => rw [List.dropWhile_cons, h c rfl, if_neg Bool.false_ne_true]

theorem stripBy_of_trimmed (h : Trimmed cs) : stripBy isBlank cs = cs := by
  have hlast : ∀ c ∈ cs.reverse.head?, isBlank c = false := by
    rw [List.head?_reverse]
    exact h.last
  rw [stripBy, dropWhile_of_head? h.first, dropWhile_of_head? hlast, List.reverse_reverse]

theorem trimmed_of_forall (h : ∀ c ∈ cs, isBlank c = false) : Trimmed cs :=
  ⟨fun c hc => h c (List.mem_of_mem_head? hc), fun c hc => h c (List.mem_of_mem_getLast? hc)⟩

end Text

namespace Percent
variable {cs : List Char}

theorem isBlank_of_mem_encode : ∀ c ∈ encode cs, Text.isBlank c = false := by
  intro c hc
  have hsafe : Url.pathSafe c := by
    rcases mem_encode hc with rfl | hu
    · decide
    · exact Url.pathSafe_of_isUnreserved hu
  simp only [Url.pathSafe, Url.isSafeBut, Bool.and_eq_true, decide_eq_true_eq] at hsafe
  simp only [Text.isBlank, Text.isWhite, Bool.or_eq_false_iff, Bool.and_eq_false_iff,
    decide_eq_false_iff_not, beq_eq_false_iff_ne]
  omega

theorem length_le_encode (cs : List Char) : cs.length ≤ (encode cs).length := by
  induction cs with
  | nil => exact Nat.le_refl 0
  | cons c cs ih =>
    have hpos : 0 < (if isUnreserved c then [c] else escape c).length := by
      split_ifs
      · exact Nat.one_pos
      · exact List.length_pos_of_mem (percent_mem_escape c)
    rw [encode_cons, List.length_append, List.length_cons]
    omega

/-- Escaping leaves a text alone just if there is nothing to escape. -/
theorem encode_eq_self_iff : encode cs = cs ↔ ∀ c ∈ cs, isUnreserved c := by
  induction cs with
  | nil => simp [encode]
  | cons c cs ih =>
    rw [encode_cons, List.forall_mem_cons, ← ih]
    split_ifs with hu
    · simp [hu]
    · have hlong : 3 ≤ (escape c).length := by
        obtain ⟨b, bs, hb⟩ := List.exists_cons_of_ne_nil (String.utf8EncodeChar_ne_nil (c := c))
        rw [escape, hb, List.flatMap_cons, escapeByte_eq, List.length_append]
        exact Nat.le_add_right 3 _
      have hne : escape c ++ encode cs ≠ c :: cs := by
        intro heq
        have hlength := congrArg List.length heq
        have hle := length_le_encode cs
        rw [List.length_append, List.length_cons] at hlength
        omega
      exact iff_of_false hne fun h => hu h.1

end Percent

namespace Disposition
variable {before cs r v word : List Char} {c : Char}

/-- Whether the word that announces a file name stands in a text, in any case. -/
def Names (cs : List Char) : Prop := "filename".toList <:+: cs.map folded

theorem dropWord?_append (h : v.map folded = word) (r : List Char) :
    dropWord? word (v ++ r) = some r := by
  have hlength : v.length = word.length := by rw [← h, List.length_map]
  rw [dropWord?, ← hlength, List.take_left, List.drop_left, if_pos h]

theorem dropWord?_eq_none (h : ¬word <+: cs.map folded) : dropWord? word cs = none := by
  refine if_neg fun heq => h ?_
  rw [← heq, List.map_take]
  exact List.take_prefix _ _

theorem parameter?_eq_none (h : ¬"filename".toList <+: cs.map folded) : parameter? cs = none := by
  rw [parameter?, dropWord?_eq_none h]
  rfl

theorem find?_eq_none (h : ¬Names cs) : find? cs = none := by
  induction cs with
  | nil => rfl
  | cons c cs ih =>
    rw [find?, parameter?_eq_none fun hp => h hp.isInfix,
      ih fun hm => h (hm.trans (List.suffix_cons _ _).isInfix)]
    rfl

/-- The first letter of the word stands nowhere else in it, so that it cannot begin before a place
where it stands. -/
theorem prefix_of_append (hp : "filename".toList <+: (before ++ 'f' :: r).map folded)
    (hne : before ≠ []) : "filename".toList <+: before.map folded := by
  rw [List.map_append] at hp
  by_cases hlong : "filename".toList.length ≤ (before.map folded).length
  · exact List.prefix_of_prefix_length_le hp (List.prefix_append _ _) hlong
  · have hlength : (before.map folded).length = before.length := List.length_map _
    have hpos : 0 < before.length := List.length_pos_of_ne_nil hne
    have hshort : before.length < 8 := by
      rw [hlength] at hlong
      exact Nat.lt_of_not_le hlong
    obtain ⟨after, hafter⟩ := hp
    have hletter : ("filename".toList ++ after)[before.length]? = some 'f' := by
      rw [hafter, ← hlength, List.getElem?_append_right (Nat.le_refl _), Nat.sub_self]
      rfl
    rw [List.getElem?_append_left hshort] at hletter
    generalize before.length = n at hpos hshort hletter
    interval_cases n <;> exact absurd hletter (by decide)

theorem find?_append (h : ¬Names before) (r : List Char) :
    find? (before ++ 'f' :: r) = find? ('f' :: r) := by
  induction before with
  | nil => rfl
  | cons c before ih =>
    have hhere : parameter? (c :: before ++ 'f' :: r) = none :=
      parameter?_eq_none fun hp =>
        h (prefix_of_append hp (List.cons_ne_nil c before)).isInfix
    have hrest : ¬Names before := fun hm => h (hm.trans (List.suffix_cons _ _).isInfix)
    rw [List.cons_append] at hhere ⊢
    rw [find?, hhere, ih hrest]
    rfl

/-- The first file name parameter decides, whatever stands before and after it. -/
theorem filename_of_parameter? (h : ¬Names before)
    (hv : parameter? ("filename".toList ++ r) = some v) (default : String) :
    filename (some (String.ofList (before ++ ("filename".toList ++ r)))) default =
      String.ofList (Text.stripBy Text.isBlank v) := by
  have hfind : find? (before ++ ("filename".toList ++ r)) = some v := by
    have hword : "filename".toList ++ r = 'f' :: ("ilename".toList ++ r) := rfl
    rw [hword] at hv ⊢
    rw [find?_append h, find?, hv]
    rfl
  rw [filename, Option.getD_some, String.toList_ofList, hfind]

section Value

/-- A value with a quote in front reads like one without. -/
theorem value?_quote (hv : ∀ d ∈ v.head?, d ≠ '"') (hne : v ≠ []) :
    value? ('"' :: v) = value? v := by
  obtain ⟨d, ds, rfl⟩ := List.exists_cons_of_ne_nil hne
  have hd : dropOne '"' (d :: ds) = d :: ds := if_neg (by simpa using (hv d rfl).symm)
  rw [value?, value?, hd]
  rfl

/-- A value ends where a quote or a semicolon stands, or with the text. -/
theorem value?_append (hne : v ≠ []) (hquote : '"' ∉ v) (hsemicolon : ';' ∉ v)
    (hr : ∀ d ∈ r.head?, d = '"' ∨ d = ';') : value? (v ++ r) = some v := by
  have hin : ∀ d ∈ v, (d != '"' && d != ';') = true := by
    intro d hd
    have hq : d ≠ '"' := fun h => hquote (h ▸ hd)
    have hs : d ≠ ';' := fun h => hsemicolon (h ▸ hd)
    simp [hq, hs]
  have htake : (v ++ r).takeWhile (fun d => d != '"' && d != ';') = v := by
    rw [List.takeWhile_append_of_pos hin]
    cases r with
    | nil => simp
    | cons d r => rcases hr d rfl with rfl | rfl <;> simp
  obtain ⟨d, ds, rfl⟩ := List.exists_cons_of_ne_nil hne
  have hd : dropOne '"' (d :: ds ++ r) = d :: ds ++ r :=
    if_neg (by simpa using fun h : '"' = d => hquote (h ▸ List.mem_cons_self))
  rw [value?, hd, htake]

/-- A star behind the word makes no difference. -/
theorem parameter?_equals (r : List Char) :
    parameter? ("filename".toList ++ '=' :: r) =
        ((dropWord? "utf-8''".toList r).bind value?).or (value? r) ∧
      parameter? ("filename".toList ++ '*' :: '=' :: r) =
        ((dropWord? "utf-8''".toList r).bind value?).or (value? r) := by
  constructor <;> rw [parameter?, dropWord?_append (by decide)] <;> rfl

end Value

section Plain

/-- A name that can stand between quotes as it is. -/
structure IsPlain (name : String) : Prop where
  not_empty : name ≠ ""
  no_quote : '"' ∉ name.toList
  no_semicolon : ';' ∉ name.toList
  trimmed : Text.Trimmed name.toList

theorem IsPlain.value?_quoted {name : String} (h : IsPlain name) (after : List Char) :
    value? ('"' :: (name.toList ++ '"' :: after)) = some name.toList := by
  have hne : name.toList ≠ [] := by simpa using h.not_empty
  have hhead : ∀ d ∈ (name.toList ++ '"' :: after).head?, d ≠ '"' := by
    obtain ⟨d, ds, hd⟩ := List.exists_cons_of_ne_nil hne
    have hquote : d ≠ '"' := fun heq => h.no_quote (by simp [hd, heq])
    simp [hd, hquote]
  rw [value?_quote hhead (by simp)]
  exact value?_append hne h.no_quote h.no_semicolon fun d hd => .inl (Option.some.inj hd).symm

/-- A plain name between quotes is told as it stands, by the first parameter of a header; without
the word there is no name. -/
theorem plain_name_reads_back {before name : String} (hbefore : ¬Names before.toList)
    (hname : IsPlain name) (after default : String) :
    filename (some (before ++ "filename=\"" ++ name ++ "\"" ++ after)) default = name ∧
      ∀ header : Option String, ¬Names (header.getD "").toList →
        filename header default = default := by
  constructor
  · have hmark : dropWord? "utf-8''".toList ('"' :: (name.toList ++ '"' :: after.toList)) =
        none := by
      refine dropWord?_eq_none fun hp => ?_
      obtain ⟨rest, hrest⟩ := hp
      exact absurd (List.cons.inj hrest).1 (by decide)
    have hv := (parameter?_equals ('"' :: (name.toList ++ '"' :: after.toList))).1
    rw [hmark, hname.value?_quoted] at hv
    have hheader : before ++ "filename=\"" ++ name ++ "\"" ++ after =
        String.ofList (before.toList ++ ("filename".toList ++
          '=' :: '"' :: (name.toList ++ '"' :: after.toList))) := by
      simp [← String.toList_inj]
    rw [hheader, filename_of_parameter? hbefore hv, Text.stripBy_of_trimmed hname.trimmed,
      String.ofList_toList]
  · intro header h
    rw [filename, find?_eq_none h]

/-- A name that looks like an extended one and like another parameter. -/
theorem lookalike_name_reads_back :
    ¬Names "Attachment; x=file; ".toList ∧ IsPlain "UTF-8''filename*='it''s'.csv" ∧
      filename (some ("Attachment; x=file; " ++ "filename=\"" ++ "UTF-8''filename*='it''s'.csv" ++
        "\"" ++ "; filename=\"b.csv\"")) "c.csv" = "UTF-8''filename*='it''s'.csv" := by
  have hbefore : ¬Names "Attachment; x=file; ".toList := by
    unfold Names
    decide
  have hname : IsPlain "UTF-8''filename*='it''s'.csv" :=
    ⟨by decide, by decide, by decide, by decide⟩
  exact ⟨hbefore, hname, (plain_name_reads_back hbefore hname _ _).1⟩

/-- An `i` without its dot is the letter as well, so that what stands behind it counts. -/
example : Names "fılename".toList ∧
    filename (some "fılename=a.csv; filename=\"b.csv\"") "" = "a.csv" := by
  unfold Names
  decide

end Plain

section Extended

/-- The header that gives a name with the bytes of all other than unreserved characters escaped. -/
def extended (name : String) : String :=
  "attachment; filename*=UTF-8''" ++ String.ofList (Percent.encode name.toList)

theorem extended_eq (name : String) : extended name = String.ofList ("attachment; ".toList ++
    ("filename".toList ++ '*' :: '=' :: ("UTF-8''".toList ++ Percent.encode name.toList))) := by
  have hfixed : "attachment; filename*=UTF-8''".toList =
      "attachment; ".toList ++ ("filename".toList ++ '*' :: '=' :: "UTF-8''".toList) := by decide
  unfold extended
  rw [← String.toList_inj, String.toList_append, hfixed]
  simp only [String.toList_ofList, List.append_assoc, List.cons_append]

/-- The escapes of an extended name are told as they stand. They spell the name, but are the name
just if it needs none. -/
theorem extended_name_reads_back_iff {name : String} (hname : name ≠ "") (default : String) :
    ∃ told, filename (some (extended name)) default = told ∧
      (Charset.utf8 false).decode (Percent.bytes told.toList) = .ok name.toList ∧
      (told = name ↔ ∀ c ∈ name.toList, Percent.isUnreserved c) := by
  have hsafe {c : Char} (hc : ¬(c = '%' ∨ Percent.isUnreserved c)) :
      c ∉ Percent.encode name.toList := fun hm => hc (Percent.mem_encode hm)
  have hne : Percent.encode name.toList ≠ [] := by
    have hlength := Percent.length_le_encode name.toList
    have hpos : 0 < name.toList.length := List.length_pos_of_ne_nil (by simpa using hname)
    exact List.ne_nil_of_length_pos (Nat.lt_of_lt_of_le hpos hlength)
  have hvalue : value? (Percent.encode name.toList) = some (Percent.encode name.toList) := by
    simpa using value?_append (r := []) hne (hsafe (by decide)) (hsafe (by decide)) (by simp)
  have hv := (parameter?_equals ("UTF-8''".toList ++ Percent.encode name.toList)).2
  rw [dropWord?_append (by decide), Option.bind_some, hvalue, Option.some_or] at hv
  have hbefore : ¬Names "attachment; ".toList := by
    unfold Names
    decide
  have htrimmed : Text.Trimmed (Percent.encode name.toList) :=
    Text.trimmed_of_forall Percent.isBlank_of_mem_encode
  refine ⟨String.ofList (Percent.encode name.toList), ?_, ?_, ?_⟩
  · rw [extended_eq, filename_of_parameter? hbefore hv, Text.stripBy_of_trimmed htrimmed]
  · rw [String.toList_ofList, Percent.bytes_encode, Charset.decode_encodeUtf8]
  · rw [← Percent.encode_eq_self_iff, ← String.toList_inj, String.toList_ofList]

theorem unreserved_name_reads_back : "a~b.csv" ≠ "" ∧
    filename (some (extended "a~b.csv")) "c.csv" = "a~b.csv" := by
  have hname : "a~b.csv" ≠ "" := by decide
  obtain ⟨told, htold, -, hiff⟩ := extended_name_reads_back_iff hname "c.csv"
  exact ⟨hname, htold.trans (hiff.mpr (List.all_eq_true.mp (by decide)))⟩

/-- An umlaut comes out as its two escapes. -/
theorem accented_name_not_read_back :
    extended "März.csv" = "attachment; filename*=UTF-8''M%C3%A4rz.csv" ∧
      filename (some (extended "März.csv")) "c.csv" = "M%C3%A4rz.csv" ∧
      filename (some (extended "März.csv")) "c.csv" ≠ "März.csv" := by
  decide +kernel

end Extended

end Disposition
end ChatAudit
