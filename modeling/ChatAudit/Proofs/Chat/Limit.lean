import ChatAudit.Proofs.Chat.Recovery

/-! A transcript keeps to its limit unless that leaves no room for three dots. -/
namespace ChatAudit

namespace Text
variable {limit : Nat} {whole : String}

theorem takeTo_prefix (stop : Int) (cs : List Char) : takeTo stop cs <+: cs := by
  unfold takeTo
  split_ifs
  · exact List.take_prefix _ _
  · exact List.take_prefix _ _

/-- Whether `text` tells `whole` in at most `limit` characters if that is enough, and a beginning of
it with three dots otherwise. -/
def Abridges (limit : Nat) (whole text : String) : Prop :=
  if whole.length ≤ limit then text = whole
  else ∃ start, start <+: whole.toList ∧ text.toList = start ++ ['.', '.', '.']

theorem excerpt_of_le (h : whole.length ≤ limit) : excerpt limit whole = whole := by
  have hle : (whole.length : Int) ≤ limit := by omega
  exact if_pos hle

theorem toList_excerpt (h : limit < whole.length) :
    (excerpt limit whole).toList = takeTo (limit - 3) whole.toList ++ ['.', '.', '.'] := by
  have hlt : ¬(whole.length : Int) ≤ limit := by omega
  rw [excerpt, if_neg hlt, String.toList_append, String.toList_ofList]
  rfl

theorem abridges_excerpt (limit : Nat) (whole : String) :
    Abridges limit whole (excerpt limit whole) := by
  unfold Abridges
  split_ifs with h
  · exact excerpt_of_le h
  · exact ⟨_, takeTo_prefix _ _, toList_excerpt (by omega)⟩

/-- Below three characters the cut counts from the end, so that it may leave nearly all of the text. -/
theorem length_excerpt (h : limit < whole.length) : (excerpt limit whole).length =
    if 3 ≤ limit then limit else whole.length - (3 - limit) + 3 := by
  have hlength : whole.toList.length = whole.length := String.length_toList
  rw [← String.length_toList, toList_excerpt h, List.length_append, takeTo]
  split_ifs <;> simp only [List.length_take, List.length_cons, List.length_nil] <;> omega

theorem length_excerpt_le_iff (limit : Nat) (whole : String) :
    (excerpt limit whole).length ≤ limit ↔ 3 ≤ limit ∨ whole.length ≤ limit := by
  by_cases h : whole.length ≤ limit
  · rw [excerpt_of_le h]
    omega
  · have hlength := length_excerpt (Nat.lt_of_not_le h)
    split_ifs at hlength <;> omega

end Text

section Transcript
variable {zone : Zone} {logs : List Log} {blocks : List String}

theorem transcript_eq (h : logs.mapM (Log.text zone) = .ok blocks) (limit : Int) :
    transcript zone logs limit = .ok (Text.excerpt limit (String.join blocks)) := by
  rw [transcript, h]
  rfl

/-- The blocks of the logs, or a beginning of them and three dots, which is no longer than the limit
just if the limit leaves room for the dots. -/
theorem transcript_within_iff (h : logs.mapM (Log.text zone) = .ok blocks) (limit : Nat) :
    ∃ text, transcript zone logs limit = .ok text ∧
      Text.Abridges limit (String.join blocks) text ∧
      (3 ≤ limit → text.length = min limit (String.join blocks).length) ∧
      (text.length ≤ limit ↔ 3 ≤ limit ∨ (String.join blocks).length ≤ limit) := by
  refine ⟨_, transcript_eq h limit, Text.abridges_excerpt _ _, ?_, Text.length_excerpt_le_iff _ _⟩
  intro hroom
  by_cases hfits : (String.join blocks).length ≤ limit
  · rw [Text.excerpt_of_le hfits]
    omega
  · rw [Text.length_excerpt (Nat.lt_of_not_le hfits), if_pos hroom]
    omega

theorem mapM_lookalike :
    ∃ block, [lookalike].mapM (Log.text .utc) = .ok [block] ∧ 3 ≤ block.length := by
  refine ⟨_, mapM_cons_eq_ok.mpr ⟨_, [], text_lookalike, rfl, rfl⟩, ?_⟩
  simp only [Log.textOf, Log.lines, Log.header, List.cons_append, List.map_cons,
    String.join_cons, String.length_append]
  have hrule : "----".length = 4 := by decide
  omega

theorem lookalike_within : ∃ blocks text, [lookalike].mapM (Log.text .utc) = .ok blocks ∧
    transcript .utc [lookalike] 40 = .ok text ∧ text.length ≤ 40 ∧
      Text.Abridges 40 (String.join blocks) text := by
  obtain ⟨block, hblocks, -⟩ := mapM_lookalike
  obtain ⟨text, htext, habridges, -, hwithin⟩ := transcript_within_iff hblocks 40
  exact ⟨[block], text, hblocks, htext, hwithin.mpr (.inl (by decide)), habridges⟩

/-- With no room at all a transcript is as long as without a limit, its end replaced by three dots. -/
theorem lookalike_not_within :
    ∃ text, transcript .utc [lookalike] 0 = .ok text ∧ ¬text.length ≤ 0 := by
  obtain ⟨block, hblocks, hlength⟩ := mapM_lookalike
  refine ⟨_, transcript_eq hblocks 0, fun hle => ?_⟩
  rw [String.join_cons, String.join_nil, String.append_empty] at hle
  have hroom := (Text.length_excerpt_le_iff 0 block).mp hle
  omega

end Transcript
end ChatAudit
