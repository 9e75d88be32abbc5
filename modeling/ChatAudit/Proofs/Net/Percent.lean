import ChatAudit.Net.Url
import Mathlib.Tactic.SplitIfs

/-! Which characters stand in escaped texts. -/
namespace ChatAudit.Percent

variable {c d : Char} {cs : List Char} {safe : Char → Bool}

theorem mem_hexDigits {w n : Nat} (h : c ∈ Text.hexDigits w n) :
    ∃ m, m < 16 ∧ c = Text.hexDigit m := by
  induction w generalizing n with
  | zero => cases h
  | succ w ih =>
    rcases List.mem_append.mp h with hm | hm
    · exact ih hm
    · exact ⟨n % 16, Nat.mod_lt n (by omega), List.mem_singleton.mp hm⟩

theorem isUnreserved_hexDigit :
    ∀ m, m < 16 → isUnreserved (Text.hexDigit m).toUpper = true := by decide

theorem mem_escapeByte {b : UInt8} (h : c ∈ escapeByte b) : c = '%' ∨ isUnreserved c := by
  rcases List.mem_cons.mp h with rfl | hm
  · exact .inl rfl
  · obtain ⟨e, he, rfl⟩ := List.mem_map.mp hm
    obtain ⟨m, hlt, rfl⟩ := mem_hexDigits he
    exact .inr (isUnreserved_hexDigit m hlt)

theorem mem_escape (h : c ∈ escape d) : c = '%' ∨ isUnreserved c := by
  obtain ⟨b, -, hb⟩ := List.mem_flatMap.mp h
  exact mem_escapeByte hb

theorem percent_mem_escape (d : Char) : '%' ∈ escape d := by
  obtain ⟨b, bs, hb⟩ := List.exists_cons_of_ne_nil (String.utf8EncodeChar_ne_nil (c := d))
  simp [escape, hb, escapeByte]

theorem mem_encode (h : c ∈ encode cs) : c = '%' ∨ isUnreserved c := by
  obtain ⟨d, -, hd⟩ := List.mem_flatMap.mp h
  split_ifs at hd with hu
  · obtain rfl := List.mem_singleton.mp hd
    exact .inr hu
  · exact mem_escape hd

/-- Without a mark there is no escape. -/
theorem encode_eq_of_not_mem (h : '%' ∉ encode cs) : encode cs = cs := by
  induction cs with
  | nil => rfl
  | cons d cs ih =>
    rw [encode, List.flatMap_cons] at h ⊢
    simp only [List.mem_append, not_or] at h
    obtain ⟨hd, hcs⟩ := h
    split_ifs at hd ⊢
    · exact congrArg (d :: ·) (ih hcs)
    · exact absurd (percent_mem_escape d) hd

/-- A text without marks that needs no escapes is only spelled by itself. -/
theorem encode_eq_iff {ds : List Char} (hmark : '%' ∉ ds) (hds : encode ds = ds) :
    encode cs = ds ↔ cs = ds := by
  constructor
  · intro h
    rw [← h, encode_eq_of_not_mem (by rwa [h])]
  · rintro rfl
    exact hds

theorem eq_of_startsEscape (h : startsEscape (c :: cs)) : c = '%' := by
  unfold startsEscape at h
  split at h
  · next heq => exact (List.cons.inj heq).1
  · cases h

theorem mem_normalize (h : c ∈ normalize safe cs) : safe c ∨ c = '%' ∨ isUnreserved c := by
  induction cs with
  | nil => cases h
  | cons d cs ih =>
    rcases List.mem_append.mp h with hm | hm
    · split_ifs at hm with hd
      · obtain rfl := List.mem_singleton.mp hm
        simp only [Bool.or_eq_true] at hd
        rcases hd with (hu | hs) | he
        · exact .inr (.inr hu)
        · exact .inl hs
        · exact .inr (.inl (eq_of_startsEscape he))
      · exact .inr (mem_escape hm)
    · exact ih hm

theorem normalize_eq_of_not_mem (h : '%' ∉ normalize safe cs) : normalize safe cs = cs := by
  induction cs with
  | nil => rfl
  | cons d cs ih =>
    rw [normalize] at h ⊢
    simp only [List.mem_append, not_or] at h
    obtain ⟨hd, hcs⟩ := h
    split_ifs at hd ⊢
    · exact congrArg (d :: ·) (ih hcs)
    · exact absurd (percent_mem_escape d) hd

/-- Where the mark itself is safe, each character is rewritten on its own. -/
theorem normalize_eq_flatMap (h : safe '%') (cs : List Char) : normalize safe cs =
    cs.flatMap fun c => if isUnreserved c || safe c then [c] else escape c := by
  induction cs with
  | nil => rfl
  | cons c cs ih =>
    have hmark : startsEscape (c :: cs) → safe c := fun he => eq_of_startsEscape he ▸ h
    rw [normalize, ih, List.flatMap_cons]
    congr 1
    cases hs : safe c with
    | true => simp
    | false =>
      have he : startsEscape (c :: cs) = false :=
        Bool.eq_false_iff.mpr fun he => Bool.eq_false_iff.mp hs (hmark he)
      rw [he, Bool.or_false]

theorem normalize_of_forall (h : ∀ c ∈ cs, safe c) : normalize safe cs = cs := by
  induction cs with
  | nil => rfl
  | cons d cs ih =>
    rw [normalize, ih fun c hc => h c (List.mem_cons_of_mem d hc)]
    simp [h d List.mem_cons_self]

/-- Safe characters at the end stay there. -/
theorem suffix_normalize {ds : List Char} (hmark : safe '%') (h : ∀ c ∈ ds, safe c)
    (hs : ds <:+ cs) : ds <:+ normalize safe cs := by
  obtain ⟨before, rfl⟩ := hs
  rw [normalize_eq_flatMap hmark, List.flatMap_append, ← normalize_eq_flatMap hmark ds,
    normalize_of_forall h]
  exact List.suffix_append _ _

section Bytes
variable {b : UInt8}

theorem hexValue?_hexDigit : ∀ m, m < 16 → Text.hexValue? (Text.hexDigit m).toUpper = some m := by
  decide

theorem bytes_cons (h : c ≠ '%') (cs : List Char) :
    bytes (c :: cs) = String.utf8EncodeChar c ++ bytes cs := by
  rw [bytes]
  exact fun _ _ _ hc _ => h hc

theorem escapeByte_eq (b : UInt8) : escapeByte b =
    ['%', (Text.hexDigit (b.toNat / 16 % 16)).toUpper, (Text.hexDigit (b.toNat % 16)).toUpper] :=
  rfl

/-- An escape stands for its byte, whatever follows. -/
theorem bytes_escapeByte (b : UInt8) (cs : List Char) : bytes (escapeByte b ++ cs) = b :: bytes cs := by
  have hb : b.toNat < 256 := b.toNat_lt
  have hhigh : b.toNat / 16 % 16 = b.toNat / 16 := by omega
  have hsum : 16 * (b.toNat / 16) + b.toNat % 16 = b.toNat := by omega
  rw [escapeByte_eq, List.cons_append, List.cons_append, List.cons_append, List.nil_append, bytes,
    hexValue?_hexDigit _ (Nat.mod_lt _ (by omega)), hexValue?_hexDigit _ (Nat.mod_lt _ (by omega)),
    hhigh]
  simp [hsum]

theorem bytes_flatMap_escapeByte (bs : List UInt8) (cs : List Char) :
    bytes (bs.flatMap escapeByte ++ cs) = bs ++ bytes cs := by
  induction bs with
  | nil => rfl
  | cons b bs ih => rw [List.flatMap_cons, List.append_assoc, bytes_escapeByte, ih, List.cons_append]

theorem encode_cons (c : Char) (cs : List Char) :
    encode (c :: cs) = (if isUnreserved c then [c] else escape c) ++ encode cs :=
  List.flatMap_cons

/-- An escaped text stands for the bytes of the text. -/
theorem bytes_encode (cs : List Char) : bytes (encode cs) = Charset.encodeUtf8 cs := by
  induction cs with
  | nil => rfl
  | cons c cs ih =>
    have hu : Charset.encodeUtf8 (c :: cs) = String.utf8EncodeChar c ++ Charset.encodeUtf8 cs :=
      List.flatMap_cons
    rw [encode_cons, hu, ← ih]
    split_ifs with hsafe
    · exact bytes_cons (by rintro rfl; exact absurd hsafe (by decide)) _
    · exact bytes_flatMap_escapeByte _ _

end Bytes

end ChatAudit.Percent
