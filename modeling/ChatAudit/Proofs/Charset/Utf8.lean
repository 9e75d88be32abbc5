import ChatAudit.Charset.Basic
import Mathlib.Tactic.SplitIfs

/-! Texts survive being written in UTF-8 and read again. -/
namespace ChatAudit.Charset

section Decoder
variable {b d : UInt8} {bs rest : List UInt8} {c : Char} {n v left value seen : Nat}

/-- A byte after the second one brings six bits. -/
theorem continued_tail (hb : b.toNat = n + 128) (hn : n < 64) :
    continued 0x80 0xbf seen value (left + 1) (b :: rest) =
      continued 0x80 0xbf (seen + 1) (64 * value + n) left rest := by
  have hlow : 0x80 ≤ b := UInt8.le_iff_toNat_le.mpr (by simp [hb])
  have hhigh : b ≤ 0xbf := UInt8.le_iff_toNat_le.mpr (by simp; omega)
  simp [continued, hlow, hhigh, hb]

theorem lead?_eq_some_iff : lead? b = some (left, value) ↔
    (0xc2 ≤ b.toNat ∧ b.toNat < 0xe0 ∧ left = 1 ∧ value = b.toNat - 0xc0) ∨
      (0xe0 ≤ b.toNat ∧ b.toNat < 0xf0 ∧ left = 2 ∧ value = b.toNat - 0xe0) ∨
      (0xf0 ≤ b.toNat ∧ b.toNat < 0xf5 ∧ left = 3 ∧ value = b.toNat - 0xf0) := by
  simp only [lead?, Bool.and_eq_true, decide_eq_true_eq, UInt8.le_iff_toNat_le,
    UInt8.lt_iff_toNat_lt, UInt8.reduceToNat]
  split_ifs <;> simp only [Option.some.injEq, Prod.mk.injEq, false_iff] <;> omega

/-- The second bytes that keep a character out of the shorter forms, the surrogates and what lies
above all characters. -/
theorem secondRange_spec (hd : d.toNat = n + 128) (hn : n < 64) (h0 : b.toNat = 0xe0 → 32 ≤ n)
    (hs : b.toNat = 0xed → n < 32) (h1 : b.toNat = 0xf0 → 16 ≤ n) (h4 : b.toNat = 0xf4 → n < 16) :
    (secondRange b).1 ≤ d ∧ d ≤ (secondRange b).2 := by
  simp only [secondRange, beq_iff_eq, ← UInt8.toNat_inj, UInt8.le_iff_toNat_le, UInt8.reduceToNat]
  split_ifs <;> simp only [UInt8.reduceToNat] <;> omega

theorem utf8Decoder_of_lead (hl : lead? b = some (left + 1, value)) (hd : d.toNat = n + 128)
    (hr : (secondRange b).1 ≤ d ∧ d ≤ (secondRange b).2) :
    utf8Decoder b (d :: rest) = continued 0x80 0xbf 2 (64 * value + n) left rest := by
  have hb : ¬b < 0x80 := by
    rw [UInt8.lt_iff_toNat_lt]
    rcases lead?_eq_some_iff.mp hl with h | h | h <;> simp only [UInt8.reduceToNat] <;> omega
  simp [utf8Decoder, hb, hl, continued, hr, hd]

/-- The decoder reads back what stands for a character, whatever follows. -/
theorem utf8Decoder_encodeChar (h : String.utf8EncodeChar c = b :: bs) :
    utf8Decoder b (bs ++ rest) = ⟨bs.length + 1, .ok c⟩ := by
  have hvalid : c.toNat < 0xd800 ∨ 0xdfff < c.toNat ∧ c.toNat < 0x110000 := c.valid
  have hof : Char.ofNat c.toNat = c := Char.ofNat_toNat c
  have hval : c.val.toNat = c.toNat := rfl
  have hlast (n : Nat) : (UInt8.ofNat (n % 64 + 128)).toNat = n % 64 + 128 := by simp; omega
  unfold String.utf8EncodeChar at h
  rw [hval] at h
  generalize c.toNat = v at hvalid hof h
  dsimp only at h
  split_ifs at h with h1 h2 h3
  · obtain ⟨rfl, rfl⟩ := List.cons.inj h
    have hv : (UInt8.ofNat v).toNat = v := by simp; omega
    have hb : UInt8.ofNat v < 0x80 := by rw [UInt8.lt_iff_toNat_lt, hv]; simp; omega
    rw [utf8Decoder, if_pos hb, hv, hof]
    rfl
  · obtain ⟨rfl, rfl⟩ := List.cons.inj h
    have hb : (UInt8.ofNat (v / 64 % 32 + 192)).toNat = v / 64 + 192 := by simp; omega
    have hl : lead? (UInt8.ofNat (v / 64 % 32 + 192)) = some (0 + 1, v / 64) :=
      lead?_eq_some_iff.mpr (by omega)
    rw [List.cons_append, utf8Decoder_of_lead hl (hlast v) (secondRange_spec (hlast v) (by omega)
      (by omega) (by omega) (by omega) (by omega)), continued]
    simp [← hof, Nat.div_add_mod]
  · obtain ⟨rfl, rfl⟩ := List.cons.inj h
    have hb : (UInt8.ofNat (v / 4096 % 16 + 224)).toNat = v / 4096 + 224 := by simp; omega
    have hl : lead? (UInt8.ofNat (v / 4096 % 16 + 224)) = some (1 + 1, v / 4096) :=
      lead?_eq_some_iff.mpr (by omega)
    have hsum : 64 * (64 * (v / 4096) + v / 64 % 64) + v % 64 = v := by omega
    rw [List.cons_append, utf8Decoder_of_lead hl (hlast (v / 64)) (secondRange_spec (hlast (v / 64))
      (by omega) (by omega) (by omega) (by omega) (by omega)), List.cons_append,
      continued_tail (hlast v) (by omega), hsum, continued, hof]
    rfl
  · obtain ⟨rfl, rfl⟩ := List.cons.inj h
    have hb : (UInt8.ofNat (v / 262144 % 8 + 240)).toNat = v / 262144 + 240 := by simp; omega
    have hl : lead? (UInt8.ofNat (v / 262144 % 8 + 240)) = some (2 + 1, v / 262144) :=
      lead?_eq_some_iff.mpr (by omega)
    have hsum : 64 * (64 * (64 * (v / 262144) + v / 4096 % 64) + v / 64 % 64) + v % 64 = v := by
      omega
    rw [List.cons_append, utf8Decoder_of_lead hl (hlast (v / 4096))
      (secondRange_spec (hlast (v / 4096)) (by omega) (by omega) (by omega) (by omega) (by omega)),
      List.cons_append, continued_tail (hlast (v / 64)) (by omega), List.cons_append,
      continued_tail (hlast v) (by omega), hsum, continued, hof]
    rfl

end Decoder

variable {bytes : List UInt8} {cs : List Char}

theorem pieces_cons (next : Decoder) (b : UInt8) (bs : List UInt8) :
    pieces next (b :: bs) = next b bs :: pieces next (bs.drop ((next b bs).length - 1)) := by
  rw [pieces]

/-- A text in UTF-8 falls into one piece for each of its characters. -/
theorem pieces_encodeUtf8 (cs : List Char) : pieces utf8Decoder (encodeUtf8 cs) =
    cs.map fun c => ⟨(String.utf8EncodeChar c).length, .ok c⟩ := by
  induction cs with
  | nil => rw [encodeUtf8, List.flatMap_nil, pieces, List.map_nil]
  | cons c cs ih =>
    obtain ⟨b, bs, hc⟩ := List.exists_cons_of_ne_nil (String.utf8EncodeChar_ne_nil (c := c))
    have hd : utf8Decoder b (bs ++ encodeUtf8 cs) = ⟨bs.length + 1, .ok c⟩ :=
      utf8Decoder_encodeChar hc
    have hcs : encodeUtf8 (c :: cs) = b :: (bs ++ encodeUtf8 cs) := by
      rw [encodeUtf8, List.flatMap_cons, hc]
      rfl
    rw [hcs, pieces_cons, hd, List.map_cons, hc]
    simp [ih]

theorem strict_go_map {codec : String} {length : Char → Nat} (start : Nat) (bytes : List UInt8)
    (cs done : List Char) :
    strict.go codec start bytes (cs.map fun c => ⟨length c, .ok c⟩) done =
      .ok (done.reverse ++ cs) := by
  induction cs generalizing start bytes done with
  | nil => simp [strict.go]
  | cons c cs ih => simp [strict.go, ih]

/-- Reading UTF-8 is the inverse of writing it. -/
theorem decode_encodeUtf8 (cs : List Char) : (utf8 false).decode (encodeUtf8 cs) = .ok cs := by
  have hp : ((utf8 false).plan (encodeUtf8 cs)).bytes = encodeUtf8 cs := by simp [plan]
  unfold decode
  dsimp only
  rw [hp]
  simp only [plan, strict, pieces_encodeUtf8]
  rw [strict_go_map]
  rfl

end ChatAudit.Charset
