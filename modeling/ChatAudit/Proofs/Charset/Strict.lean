import ChatAudit.Proofs.Charset.Utf8

/-! Bytes that are read as a text, whatever their encoding. -/
namespace ChatAudit.Charset

variable {codec : String} {bytes : List UInt8} {cs : List Char}

section Ascii
variable {reason : String} {char? : UInt8 → Option Char}

theorem encodeUtf8_cons (c : Char) (cs : List Char) :
    encodeUtf8 (c :: cs) = String.utf8EncodeChar c ++ encodeUtf8 cs :=
  List.flatMap_cons

theorem pieces_ascii (hchar : ∀ b < 0x80, char? b = some (Char.ofNat b.toNat))
    (hcs : ∀ c ∈ cs, c.toNat < 128) :
    pieces (byteDecoder reason char?) (encodeUtf8 cs) = cs.map fun c => ⟨1, .ok c⟩ := by
  induction cs with
  | nil => rw [encodeUtf8, List.flatMap_nil, pieces, List.map_nil]
  | cons c cs ih =>
    have hc : c.toNat < 128 := hcs c List.mem_cons_self
    have hvalue : (UInt8.ofNat c.toNat).toNat = c.toNat := by
      rw [UInt8.toNat_ofNat']
      exact Nat.mod_eq_of_lt (by omega)
    have hlow : UInt8.ofNat c.toNat < 0x80 := by
      rw [UInt8.lt_iff_toNat_lt, hvalue]
      exact hc
    have hbyte : String.utf8EncodeChar c = [UInt8.ofNat c.toNat] := if_pos (Nat.le_of_lt_succ hc)
    have hnext (bs : List UInt8) :
        byteDecoder reason char? (UInt8.ofNat c.toNat) bs = ⟨1, .ok c⟩ := by
      rw [byteDecoder, hchar _ hlow, hvalue, Char.ofNat_toNat]
    rw [encodeUtf8_cons, hbyte, List.singleton_append, pieces_cons, hnext, List.map_cons]
    exact congrArg _ (ih fun d hd => hcs d (List.mem_cons_of_mem c hd))

/-- Encodings of single bytes read ASCII as it is. -/
theorem strict_ascii (reason : String)
    (hchar : ∀ b < 0x80, char? b = some (Char.ofNat b.toNat)) (hcs : ∀ c ∈ cs, c.toNat < 128) :
    strict codec (byteDecoder reason char?) 0 (encodeUtf8 cs) = .ok cs := by
  rw [strict, pieces_ascii hchar hcs, strict_go_map, List.reverse_nil, List.nil_append]

end Ascii

section Length
variable {next : Decoder} {start : Nat}

/-- Each piece of a text is one character of it. -/
theorem length_of_strict_go {ps : List Piece} {done : List Char}
    (h : strict.go codec start bytes ps done = .ok cs) : cs.length = done.length + ps.length := by
  induction ps generalizing start bytes done with
  | nil =>
    obtain rfl : done.reverse = cs := Except.ok.inj h
    exact List.length_reverse
  | cons p ps ih =>
    unfold strict.go at h
    cases hp : p.content with
    | error reason => simp [hp] at h
    | ok c =>
      rw [hp] at h
      rw [ih h, List.length_cons, List.length_cons]
      omega

/-- At most a mark of four bytes is no part of the text. -/
theorem bytes_plan (bytes : List UInt8) (c : Charset) :
    ∃ n ≤ 4, (c.plan bytes).bytes = bytes.drop n := by
  have hwide {width : Nat} (hwidth : width ≤ 4) (name : String) (decoder : ByteOrder → Decoder)
      (order : Option ByteOrder) :
      ∃ n ≤ 4, (widePlan name width decoder order bytes).bytes = bytes.drop n := by
    unfold widePlan
    cases order with
    | some o => exact ⟨0, Nat.zero_le 4, rfl⟩
    | none =>
      cases byteOrder? width bytes with
      | some o => exact ⟨width, hwidth, rfl⟩
      | none => exact ⟨0, Nat.zero_le 4, rfl⟩
  cases c with
  | utf8 marked =>
    unfold plan
    dsimp only
    split_ifs
    · exact ⟨3, by decide, rfl⟩
    · exact ⟨0, Nat.zero_le 4, rfl⟩
  | utf16 order => exact hwide (by decide) _ _ _
  | utf32 order => exact hwide (by decide) _ _ _
  | ascii | latin1 | page => exact ⟨0, Nat.zero_le 4, rfl⟩

theorem decode_ne_nil (hbytes : 4 < bytes.length) (c : Charset) : c.decode bytes ≠ .ok [] := by
  intro h
  obtain ⟨n, hn, hplan⟩ := bytes_plan bytes c
  have hlength := length_of_strict_go h
  cases hdrop : bytes.drop n with
  | nil =>
    rw [List.drop_eq_nil_iff] at hdrop
    omega
  | cons b rest =>
    rw [hplan, hdrop, pieces_cons, List.length_cons] at hlength
    simp at hlength

end Length

end ChatAudit.Charset
