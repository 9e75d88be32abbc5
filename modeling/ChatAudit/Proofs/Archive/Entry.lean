import ChatAudit.Proofs.Archive.Written
import ChatAudit.Proofs.Charset.Strict

/-! What the directory says about a written member reads back. -/
namespace ChatAudit.Archive
open Bytes

variable {m : Stored} {offset n k : Nat}

/-- The encoding of names that are not marked reads ASCII as it is. -/
theorem decode_nameCharset {cs : List Char} (hcs : ∀ c ∈ cs, c.toNat < 128) :
    (nameCharset 0).decode (Charset.encodeUtf8 cs) = .ok cs := by
  have hlookup : Dict.lookup? (Charset.normalize "cp437") Charset.labels = none := by
    decide +kernel
  unfold nameCharset Charset.ofLabel?
  dsimp only
  rw [hlookup, Nat.zero_testBit, if_neg Bool.false_ne_true]
  cases Charset.codePages.find? fun p => p.labels.contains (Charset.normalize "cp437") with
  | none => exact Charset.strict_ascii "" (fun _ _ => rfl) hcs
  | some p => exact Charset.strict_ascii _ (fun b hb => if_pos hb) hcs

theorem readName_nameBytes (m : Stored) : readName m.flags m.nameBytes = .ok m.name := by
  have hdecode : (nameCharset m.flags).decode m.nameBytes = .ok m.name.toList := by
    unfold Stored.flags Stored.nameBytes
    split_ifs with hascii
    · refine decode_nameCharset fun c hc => ?_
      exact of_decide_eq_true (List.all_eq_true.mp hascii c hc)
    · exact Charset.decode_encodeUtf8 m.name.toList
  simp only [readName, hdecode, String.ofList_toList]

namespace Stored

/-- What the directory says about a member. -/
def entry (m : Stored) (offset : Nat) : Entry where
  storedName := m.name
  flags := m.flags
  method := 0
  checksum := m.checksum
  packedSize := m.size
  size := m.size
  offset := offset

/-- The same as far as the fields of four bytes tell it. -/
def shownEntry (m : Stored) (offset : Nat) : Entry where
  storedName := m.name
  flags := m.flags
  method := 0
  checksum := m.checksum
  packedSize := shown (largest < m.size) m.size
  size := shown (largest < m.size) m.size
  offset := shown (largest < offset) offset

theorem flags_lt (m : Stored) : m.flags < 256 ^ 2 := by
  unfold flags
  split_ifs <;> decide

theorem checksum_lt (m : Stored) : m.checksum < 256 ^ 4 := (Crc32.checksum m.content).toNat_lt

end Stored

theorem shown_lt (n : Nat) : shown (largest < n) n < 256 ^ 4 := by
  have hlargest : largest < 256 ^ 4 := by decide
  unfold shown
  simp only [decide_eq_true_eq]
  split_ifs <;> omega

theorem version_le (large : Bool) : version large ≤ 45 := by
  cases large <;> decide

theorem field_of_slice {start width : Nat} {bs : Bytes} (hn : n < 256 ^ width)
    (h : slice start width bs = ofNumber width n) : field start width bs = n := by
  rw [field, h, number_ofNumber hn]

theorem field_ofNumber {width : Nat} (hk : k < 256 ^ width) (rest : Bytes) :
    field 0 width (ofNumber width k ++ rest) = k := by
  have hslice : slice 0 width (ofNumber width k ++ rest) = ofNumber width k :=
    List.take_left' (length_ofNumber width k)
  exact field_of_slice hk hslice

theorem largeNumber_ofNumber (part : String) (n : Nat) (hk : k < 256 ^ 8) (data : Bytes) :
    largeNumber true part n (ofNumber 8 k ++ data) = .ok (k, data) := by
  have hlength : ¬(ofNumber 8 k ++ data).length < 8 := by
    rw [List.length_append, length_ofNumber]
    omega
  have hfield := field_ofNumber hk data
  have hdrop : (ofNumber 8 k ++ data).drop 8 = data := rfl
  simp only [largeNumber, hlength, hfield, hdrop, Bool.not_true, Bool.false_eq_true, if_false]

/-- The eight bytes of a number that is too large for four. -/
def largeBytes (n : Nat) : Bytes := if largest < n then ofNumber 8 n else []

theorem largeNumber_shown (part : String) (hn : n < 256 ^ 8) (data : Bytes) :
    largeNumber (largest < n) part (shown (largest < n) n) (largeBytes n ++ data) =
      .ok (n, data) := by
  unfold largeBytes
  split_ifs with h
  · rw [decide_eq_true h]
    exact largeNumber_ofNumber part _ hn data
  · rw [decide_eq_false h]
    rfl

theorem flatMap_largeNumbers (m : Stored) (offset : Nat) :
    (m.largeNumbers offset).flatMap (ofNumber 8) =
      largeBytes m.size ++ (largeBytes m.size ++ (largeBytes offset ++ [])) := by
  unfold Stored.largeNumbers largeBytes
  split_ifs <;> simp

/-- A field of four bytes is full only if the number stands elsewhere. -/
theorem shown_beq (n : Nat) : (shown (largest < n) n == 0xffffffff) = decide (largest < n) := by
  have hlargest : largest = 2147483647 := rfl
  by_cases h : largest < n
  · simp [shown, h]
  · have hn : n ≠ 0xffffffff := by omega
    simp [shown, h, hn]

/-- Numbers that did not fit are found behind the name. -/
theorem withLarge_largeNumbers (hsize : m.size < 256 ^ 8) (hoffset : offset < 256 ^ 8) :
    withLarge (m.shownEntry offset) ((m.largeNumbers offset).flatMap (ofNumber 8)) =
      .ok (m.entry offset) := by
  have hs (part : String) (data : Bytes) := largeNumber_shown part hsize data
  have ho (part : String) (data : Bytes) := largeNumber_shown part hoffset data
  have hfull : shown (largest < m.size) m.size ≠ 0xffffffffffffffff := by
    have hshown := shown_lt m.size
    omega
  have hplace : (((shown (largest < offset) offset : Nat) : Int) == 0xffffffff) =
      decide (largest < offset) :=
    (decide_eq_decide.mpr Int.ofNat_inj).trans (shown_beq offset)
  rw [flatMap_largeNumbers]
  simp only [withLarge, Stored.shownEntry, tooLarge, shown_beq, beq_eq_false_iff_ne.mpr hfull,
    Bool.or_false, hplace, Int.toNat_natCast, bind, Except.bind, hs, ho]
  rfl

theorem readExtra_nil (fuel : Nat) (e : Entry) : readExtra fuel e [] = .ok e := by
  cases fuel <;> rfl

theorem ofFields_map (w : Nat) (numbers : List Nat) :
    ofFields (numbers.map fun n => (w, n)) = numbers.flatMap (ofNumber w) :=
  List.flatMap_map ..

theorem length_flatMap_ofNumber (w : Nat) (numbers : List Nat) :
    (numbers.flatMap (ofNumber w)).length = w * numbers.length := by
  rw [List.length_flatMap, List.map_congr_left fun n _ => length_ofNumber w n, List.map_const',
    List.sum_replicate_nat, Nat.mul_comm]

theorem largeField_of_ne_nil {numbers : List Nat} (h : numbers ≠ []) : largeField numbers =
    ofNumber 2 1 ++ (ofNumber 2 (8 * numbers.length) ++ numbers.flatMap (ofNumber 8)) := by
  rw [← ofFields_map, largeField, if_neg (by simpa using h)]
  rfl

theorem length_largeField (numbers : List Nat) :
    (largeField numbers).length = if numbers = [] then 0 else 4 + 8 * numbers.length := by
  split_ifs with h
  · rw [h]
    rfl
  · rw [largeField_of_ne_nil h]
    simp only [List.length_append, length_ofNumber, length_flatMap_ofNumber]
    omega

theorem length_largeNumbers (m : Stored) (offset : Nat) : (m.largeNumbers offset).length ≤ 3 := by
  unfold Stored.largeNumbers
  split_ifs <;> simp

theorem readExtra_largeField (hsize : m.size < 256 ^ 8) (hoffset : offset < 256 ^ 8) :
    readExtra (largeField (m.largeNumbers offset)).length (m.shownEntry offset)
      (largeField (m.largeNumbers offset)) = .ok (m.entry offset) := by
  have hlarge := withLarge_largeNumbers hsize hoffset
  have hcount := length_largeNumbers m offset
  by_cases hnil : m.largeNumbers offset = []
  -- No extra field, and what is shown are the numbers themselves.
  · have hexact : m.shownEntry offset = m.entry offset := by
      have hparts := List.append_eq_nil_iff.mp hnil
      have hm : ¬largest < m.size := fun h => by simp [h] at hparts
      have ho : ¬largest < offset := fun h => by simp [h] at hparts
      simp [Stored.shownEntry, Stored.entry, shown, hm, ho]
    rw [hnil, hexact]
    rfl
  · generalize m.largeNumbers offset = numbers at *
    have hlength : (largeField numbers).length = 4 + 8 * numbers.length := by
      rw [length_largeField, if_neg hnil]
    have hid : field 0 2 (largeField numbers) = 1 := by
      rw [largeField_of_ne_nil hnil]
      exact field_ofNumber (by decide) _
    have hcounted : field 2 2 (largeField numbers) = 8 * numbers.length := by
      rw [largeField_of_ne_nil hnil]
      exact field_ofNumber (by omega) _
    have hdata : slice 4 (8 * numbers.length) (largeField numbers) =
        numbers.flatMap (ofNumber 8) := by
      rw [largeField_of_ne_nil hnil]
      exact List.take_of_length_le (Nat.le_of_eq (length_flatMap_ofNumber 8 numbers))
    have hdrop : (largeField numbers).drop (8 * numbers.length + 4) = [] :=
      List.drop_eq_nil_of_le (by omega)
    obtain ⟨fuel, hfuel⟩ : ∃ fuel, (largeField numbers).length = fuel + 1 :=
      Nat.exists_eq_add_one.mpr (by omega)
    have hfits : ¬(largeField numbers).length < 8 * numbers.length + 4 := by omega
    have hfour : ¬(largeField numbers).length < 4 := by omega
    rw [hfuel, readExtra]
    simp only [hfour, hfits, hid, hcounted, hdata, hdrop, hlarge, readExtra_nil, bind, Except.bind,
      if_false, if_true]

theorem length_entryBytes (m : Stored) (offset : Nat) : (m.entryBytes offset).length =
    entryLength + m.nameBytes.length + (largeField (m.largeNumbers offset)).length := by
  have hmark : entryMark.length = 4 := rfl
  have hentry : entryLength = 46 := rfl
  simp only [Stored.entryBytes, List.length_append, length_ofFields, List.map_cons, List.map_nil,
    List.sum_cons, List.sum_nil]
  omega

theorem readEntry_entryBytes (hsize : m.size < 256 ^ 8) (hoffset : offset < 256 ^ 8)
    (rest : Bytes) : readEntry 0 (m.entryBytes offset ++ rest) =
      .ok (m.entry offset, (m.entryBytes offset).length) := by
  have hlength : ¬(m.entryBytes offset ++ rest).length < entryLength := by
    rw [List.length_append, length_entryBytes]
    omega
  have hmark : (m.entryBytes offset ++ rest).take 4 = entryMark := rfl
  have hdrop : (m.entryBytes offset ++ rest).drop entryLength =
      m.nameBytes ++ largeField (m.largeNumbers offset) ++ rest := rfl
  have hname : field 28 2 (m.entryBytes offset ++ rest) = m.nameBytes.length :=
    field_of_slice m.length_name rfl
  have hextraLength : (largeField (m.largeNumbers offset)).length < 256 ^ 2 := by
    have hcount := length_largeNumbers m offset
    rw [length_largeField]
    split_ifs <;> omega
  have hextra : field 30 2 (m.entryBytes offset ++ rest) =
      (largeField (m.largeNumbers offset)).length := field_of_slice hextraLength rfl
  have hflags : field 8 2 (m.entryBytes offset ++ rest) = m.flags := field_of_slice m.flags_lt rfl
  have hversion_le := version_le (m.wide || largest < offset)
  have hversion : field 6 1 (m.entryBytes offset ++ rest) = version (m.wide || largest < offset) :=
    field_of_slice (by omega) rfl
  have hmethod : field 10 2 (m.entryBytes offset ++ rest) = 0 := field_of_slice (by decide) rfl
  have hchecksum : field 16 4 (m.entryBytes offset ++ rest) = m.checksum :=
    field_of_slice m.checksum_lt rfl
  have hpacked : field 20 4 (m.entryBytes offset ++ rest) = shown (largest < m.size) m.size :=
    field_of_slice (shown_lt m.size) rfl
  have hunpacked : field 24 4 (m.entryBytes offset ++ rest) = shown (largest < m.size) m.size :=
    field_of_slice (shown_lt m.size) rfl
  have hplace : field 42 4 (m.entryBytes offset ++ rest) = shown (largest < offset) offset :=
    field_of_slice (shown_lt offset) rfl
  have hcomment : field 32 2 (m.entryBytes offset ++ rest) = 0 := field_of_slice (by decide) rfl
  have hsliceName : slice entryLength m.nameBytes.length (m.entryBytes offset ++ rest) =
      m.nameBytes := by
    rw [slice, hdrop, List.append_assoc, List.take_left]
  have hsliceExtra : slice (entryLength + m.nameBytes.length)
      (largeField (m.largeNumbers offset)).length (m.entryBytes offset ++ rest) =
        largeField (m.largeNumbers offset) := by
    rw [slice, ← List.drop_drop, hdrop, List.append_assoc, List.drop_left, List.take_left]
  have hread := readExtra_largeField hsize hoffset
  rw [Stored.shownEntry] at hread
  have hknown : ¬63 < version (m.wide || largest < offset) := by omega
  simp only [readEntry, hlength, hmark, hname, hextra, hflags, hversion, hmethod, hchecksum,
    hpacked, hunpacked, hplace, hcomment, hsliceName, hsliceExtra, readName_nameBytes, hknown,
    hread, bne_self_eq_false, if_false, Bool.false_eq_true, bind, Except.bind, pure, Except.pure,
    Int.add_zero, Nat.add_zero, length_entryBytes]

end ChatAudit.Archive
