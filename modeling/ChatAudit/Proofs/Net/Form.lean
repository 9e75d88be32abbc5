import ChatAudit.Net.Form
import ChatAudit.Proofs.Charset.Utf8
import ChatAudit.Proofs.Net.Ending

/-! Query strings read back: whatever the names and values are, a form spells its pairs and no
others. -/
namespace ChatAudit.Form
open Text

/-- What a plus sign stands for. -/
def plain (c : Char) : Char := if c = '+' then ' ' else c

/-- The text that a part of a query spells. -/
def decodeText (cs : List Char) : Except Charset.Fault (List Char) :=
  (Charset.utf8 false).decode (Percent.bytes (cs.map plain))

/-- A name up to the first equals sign and a value after it. -/
def decodePair? (cs : List Char) : Option (String × String) := do
  let (name, value) := cutAt '=' cs
  return (String.ofList (← (decodeText name).toOption),
    String.ofList (← (decodeText (value.getD [])).toOption))

/-- The pairs of a query. Nothing between two ampersands is no pair. -/
def decode? (cs : List Char) : Option (List (String × String)) :=
  ((splitOn '&' cs).filter fun part => !part.isEmpty).mapM decodePair?

variable {c d : Char} {cs : List Char} {p : String × String} {ps : List (String × String)}

theorem mem_encodeChar (h : c ∈ encodeChar d) : c = '+' ∨ c = '%' ∨ Percent.isUnreserved c := by
  unfold encodeChar at h
  split_ifs at h with hspace hsafe
  · left
    simpa using h
  · right; right
    obtain rfl : c = d := by simpa using h
    exact hsafe
  · right
    exact Percent.mem_escape h

theorem mem_encodeText {s : String} (h : c ∈ encodeText s) :
    c = '+' ∨ c = '%' ∨ Percent.isUnreserved c := by
  obtain ⟨d, -, hd⟩ := List.mem_flatMap.mp h
  exact mem_encodeChar hd

/-- The signs that keep the parts of a query apart do not come from its texts. -/
theorem not_mem_encodeText (s : String) : '&' ∉ encodeText s ∧ '=' ∉ encodeText s := by
  constructor
  · intro h
    rcases mem_encodeText h with h | h | h <;> revert h <;> decide
  · intro h
    rcases mem_encodeText h with h | h | h <;> revert h <;> decide

section Decode

theorem map_plain_of_not_mem (h : '+' ∉ cs) : cs.map plain = cs := by
  have hplain : ∀ c ∈ cs, plain c = id c := by
    intro c hc
    apply if_neg
    rintro rfl
    exact h hc
  rw [List.map_congr_left hplain, List.map_id]

theorem bytes_encodeChar (c : Char) (cs : List Char) :
    Percent.bytes ((encodeChar c ++ cs).map plain) =
      String.utf8EncodeChar c ++ Percent.bytes (cs.map plain) := by
  rw [List.map_append]
  unfold encodeChar
  split_ifs with hspace hsafe
  · obtain rfl : c = ' ' := by simpa using hspace
    have hplus : ['+'].map plain = [' '] := rfl
    rw [hplus]
    exact Percent.bytes_cons (by decide) _
  · have hplus : '+' ∉ [c] := by
      intro h
      obtain rfl : '+' = c := by simpa using h
      revert hsafe
      decide
    have hmark : c ≠ '%' := by
      rintro rfl
      revert hsafe
      decide
    rw [map_plain_of_not_mem hplus]
    exact Percent.bytes_cons hmark _
  · have hplus : '+' ∉ Percent.escape c := by
      intro h
      rcases Percent.mem_escape h with h | h <;> revert h <;> decide
    rw [map_plain_of_not_mem hplus]
    exact Percent.bytes_flatMap_escapeByte _ _

theorem bytes_encodeText (cs : List Char) :
    Percent.bytes ((cs.flatMap encodeChar).map plain) = Charset.encodeUtf8 cs := by
  induction cs with
  | nil => rfl
  | cons c cs ih =>
    rw [List.flatMap_cons, bytes_encodeChar, ih]
    exact List.flatMap_cons.symm

theorem decodeText_encodeText (s : String) : decodeText (encodeText s) = .ok s.toList := by
  unfold decodeText encodeText
  rw [bytes_encodeText, Charset.decode_encodeUtf8]

theorem decodePair?_encodePair (p : String × String) : decodePair? (encodePair p) = some p := by
  have hcut : cutAt '=' (encodePair p) = (encodeText p.1, some (encodeText p.2)) :=
    cutAt_append (not_mem_encodeText p.1).2 _
  unfold decodePair?
  rw [hcut]
  simp [decodeText_encodeText, Except.toOption]

theorem encode_eq_joinWith (ps : List (String × String)) :
    encode ps = joinWith '&' (ps.map encodePair) := by
  induction ps with
  | nil => rfl
  | cons p ps ih =>
    cases ps with
    | nil => rfl
    | cons q ps =>
      have hcons : encode (p :: q :: ps) = encodePair p ++ '&' :: encode (q :: ps) := rfl
      rw [hcons, ih]
      rfl

/-- An ampersand only ever stands between two pairs. -/
theorem parts_encode (ps : List (String × String)) :
    ((splitOn '&' (encode ps)).filter fun part => !part.isEmpty) = ps.map encodePair := by
  have hamp : ∀ part ∈ ps.map encodePair, '&' ∉ part := by
    intro part hpart
    obtain ⟨p, -, rfl⟩ := List.mem_map.mp hpart
    simp [encodePair, (not_mem_encodeText _).1]
  have hne : ∀ part ∈ ps.map encodePair, (!part.isEmpty) = true := by
    intro part hpart
    obtain ⟨p, -, rfl⟩ := List.mem_map.mp hpart
    simp [encodePair]
  rw [encode_eq_joinWith]
  by_cases hps : ps = []
  · subst hps
    rfl
  · have hparts : ps.map encodePair ≠ [] := by simpa using hps
    rw [splitOn_joinWith hparts hamp]
    exact List.filter_eq_self.mpr hne

/-- Reading a query is the inverse of writing it. -/
theorem decode?_encode (ps : List (String × String)) : decode? (encode ps) = some ps := by
  unfold decode?
  rw [parts_encode]
  induction ps with
  | nil => rfl
  | cons p ps ih =>
    rw [List.map_cons, List.mapM_cons, decodePair?_encodePair, ih]
    rfl

end Decode

section Normal

theorem mem_encode (h : c ∈ encode ps) : c ∈ ['&', '=', '+', '%'] ∨ Percent.isUnreserved c := by
  have htext {s : String} (h : c ∈ encodeText s) :
      c ∈ ['&', '=', '+', '%'] ∨ Percent.isUnreserved c := by
    rcases mem_encodeText h with rfl | rfl | h
    · left; decide
    · left; decide
    · right; exact h
  have hpair {p : String × String} (h : c ∈ encodePair p) :
      c ∈ ['&', '=', '+', '%'] ∨ Percent.isUnreserved c := by
    rcases List.mem_append.mp h with h | h
    · exact htext h
    · rcases List.mem_cons.mp h with rfl | h
      · left; decide
      · exact htext h
  induction ps with
  | nil => cases h
  | cons p ps ih =>
    cases ps with
    | nil => exact hpair h
    | cons q ps =>
      rcases List.mem_append.mp h with h | h
      · exact hpair h
      · rcases List.mem_cons.mp h with rfl | h
        · left; decide
        · exact ih h

/-- A form is already as addresses keep a query, so that it is not escaped a second time. -/
theorem normalize_encode (ps : List (String × String)) :
    Percent.normalize Url.querySafe (encode ps) = encode ps := by
  have hsigns : ∀ c ∈ ['&', '=', '+', '%'], Url.querySafe c := List.all_eq_true.mp rfl
  apply Percent.normalize_of_forall
  intro c hc
  rcases mem_encode hc with h | h
  · exact hsigns c h
  · exact Url.querySafe_of_pathSafe (Url.pathSafe_of_isUnreserved h)

end Normal

end ChatAudit.Form
