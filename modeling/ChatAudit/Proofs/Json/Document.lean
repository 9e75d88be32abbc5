import ChatAudit.Json.Document
import ChatAudit.Proofs.Charset.Utf8
import ChatAudit.Proofs.Json.Token

/-! Reading a JSON document is the inverse of writing it. -/
namespace ChatAudit.Json

variable {v : Json} {d : Dict Json} {fs : List Frame}

section Reading

/-- The first item of an array is read like every other value. -/
theorem foldlM_firstItem (v : Json) (before : List Json) (fs : List Frame) :
    (tokens v).foldlM Reading.step ⟨.firstItem, .items before :: fs, none⟩ =
      (tokens v).foldlM Reading.step ⟨.value, .items before :: fs, none⟩ := by
  cases v <;> rfl

mutual

/-- The tokens of a value complete the value, whatever frames it belongs to. -/
theorem foldlM_tokens : (v : Json) → v.Readable → ∀ fs : List Frame,
    (tokens v).foldlM Reading.step ⟨.value, fs, none⟩ = Reading.complete v fs
  | .null, _, fs | .bool _, _, fs | .int _, _, fs | .float _, _, fs => by
    simp [tokens, Reading.step, Reading.begin]
  | .str s, _, fs => by
    simp [tokens, Reading.step, Reading.begin]
  | .arr vs, h, fs => by
    have hitems := foldlM_itemTokens vs (readable_arr_iff.mp h) true [] fs
    simpa [tokens, Reading.step, Reading.begin] using hitems
  | .obj es, h, fs => by
    obtain ⟨hkeys, hes⟩ := readable_obj_iff.mp h
    have hentries := foldlM_entryTokens es hes true [] fs hkeys
    simpa [tokens, Reading.step, Reading.begin] using hentries

/-- The items still to come end up behind those that were read. -/
theorem foldlM_itemTokens : (vs : List Json) → (∀ v ∈ vs, v.Readable) →
    ∀ (first : Bool) (before : List Json) (fs : List Frame),
    (itemTokens first vs ++ [Token.endArray]).foldlM Reading.step
        ⟨if first then .firstItem else .after, .items before :: fs, none⟩ =
      Reading.complete (.arr (before.reverse ++ vs)) fs
  | [], _, first, before, fs => by
    cases first <;> simp [itemTokens, Reading.step]
  | v :: vs, h, first, before, fs => by
    obtain ⟨hv, hvs⟩ := List.forall_mem_cons.mp h
    have hrest := foldlM_itemTokens vs hvs false (v :: before) fs
    have hitem : (tokens v ++ (itemTokens false vs ++ [Token.endArray])).foldlM Reading.step
        ⟨.value, .items before :: fs, none⟩ =
          Reading.complete (.arr (before.reverse ++ v :: vs)) fs := by
      rw [List.foldlM_append, foldlM_tokens v hv]
      simpa [Reading.complete] using hrest
    cases first with
    | true =>
      have hfirst := foldlM_firstItem v before fs
      simp only [itemTokens, if_true, List.nil_append, List.append_assoc]
      rw [List.foldlM_append, hfirst, ← List.foldlM_append]
      exact hitem
    | false => simpa [itemTokens, Reading.step] using hitem

/-- New keys go to the end. -/
theorem foldlM_entryTokens : (es : List (String × Json)) → (∀ e ∈ es, e.2.Readable) →
    ∀ (first : Bool) (before : Dict Json) (fs : List Frame), (Dict.keys (before ++ es)).Nodup →
    (entryTokens first es ++ [Token.endObject]).foldlM Reading.step
        ⟨if first then .firstKey else .after, .entries before :: fs, none⟩ =
      Reading.complete (.obj (before ++ es)) fs
  | [], _, first, before, fs, _ => by
    cases first <;> simp [entryTokens, Reading.step]
  | (k, v) :: es, h, first, before, fs, hkeys => by
    obtain ⟨hv, hes⟩ := List.forall_mem_cons.mp h
    have hnew : k ∉ Dict.keys before := by
      rw [Dict.keys_append] at hkeys
      intro hk
      exact List.disjoint_of_nodup_append hkeys hk List.mem_cons_self
    have hsplit : before ++ (k, v) :: es = before.put k v ++ es := by
      rw [Dict.put_of_not_mem hnew, List.append_assoc]
      rfl
    rw [hsplit] at hkeys
    have hrest := foldlM_entryTokens es hes false (before.put k v) fs hkeys
    have hentry : (tokens v ++ (entryTokens false es ++ [Token.endObject])).foldlM Reading.step
        ⟨.value, .entry before k :: fs, none⟩ =
          Reading.complete (.obj (before ++ (k, v) :: es)) fs := by
      rw [List.foldlM_append, foldlM_tokens v hv, hsplit]
      simpa [Reading.complete] using hrest
    cases first <;> simpa [entryTokens, Reading.step] using hentry

end

theorem ofTokens?_tokens (h : v.Readable) : ofTokens? (tokens v) = some v := by
  unfold ofTokens?
  rw [foldlM_tokens v h]
  rfl

/-- A value without doubles is read back from its text. -/
theorem read?_writeTo (hread : v.Readable) (hfloat : v.Floatless) :
    read? (writeTo [] v) = some v := by
  unfold read?
  rw [lex?_writeTo hread hfloat]
  exact ofTokens?_tokens hread

/-- Just the readable values are read from some text. -/
theorem readable_iff_read? (hfloat : v.Floatless) : v.Readable ↔ ∃ cs, read? cs = some v := by
  constructor
  · intro hread
    exact ⟨_, read?_writeTo hread hfloat⟩
  · rintro ⟨cs, hcs⟩
    exact readable_of_read? hcs

end Reading

section Bytes

variable {b : UInt8} {bytes : List UInt8}

/-- No byte order mark starts or ends with a brace. -/
theorem byteOrder?_brace (bytes : List UInt8) :
    Charset.byteOrder? 2 (0x7b :: bytes) = none ∧ Charset.byteOrder? 4 (0x7b :: bytes) = none := by
  constructor
  · rcases bytes with _ | ⟨b, bytes⟩
    · rfl
    · have hb : b.toNat < 256 := b.toNat_lt
      have hbig : ¬31488 + b.toNat = 65279 := by omega
      have hlittle : ¬256 * b.toNat = 65156 := by omega
      simp [Charset.byteOrder?, Charset.ByteOrder.unit, hbig, hlittle]
  · rcases bytes with _ | ⟨b, _ | ⟨c, _ | ⟨d, bytes⟩⟩⟩
    · rfl
    · rfl
    · rfl
    · have hbig : ¬256 * (256 * (31488 + b.toNat) + c.toNat) + d.toNat = 65279 := by omega
      have hlittle : ¬256 * (256 * (256 * d.toNat + c.toNat) + b.toNat) = 65156 := by omega
      simp [Charset.byteOrder?, Charset.ByteOrder.unit, hbig, hlittle]

/-- An object is taken for UTF-8, whether or not a mark could have stood in front of it. -/
theorem charsetOf_brace (hb : b ≠ 0) (bytes : List UInt8) :
    ∃ marked, charsetOf (0x7b :: b :: bytes) = .utf8 marked := by
  obtain ⟨htwo, hfour⟩ := byteOrder?_brace (b :: bytes)
  unfold charsetOf
  rw [htwo, hfour]
  rcases bytes with _ | ⟨c, _ | ⟨d, bytes⟩⟩
  · exact ⟨false, by simp [hb]⟩
  · exact ⟨true, rfl⟩
  · exact ⟨true, by simp [hb]⟩

theorem decode_brace (marked : Bool) (bytes : List UInt8) :
    (Charset.utf8 marked).decode (0x7b :: bytes) = (Charset.utf8 false).decode (0x7b :: bytes) := by
  cases marked with
  | false => rfl
  | true =>
    have hplan : (Charset.utf8 true).plan (0x7b :: bytes) =
        (Charset.utf8 false).plan (0x7b :: bytes) := rfl
    unfold Charset.decode
    rw [hplan]

theorem readable_of_readBytes? (h : readBytes? bytes = some v) : v.Readable := by
  unfold readBytes? at h
  split at h
  · exact readable_of_read? h
  · cases h

/-- The text of an object is read back from its bytes in UTF-8. -/
theorem readBytes?_write (hread : Readable (.obj d)) (hfloat : Floatless (.obj d)) :
    readBytes? (Charset.encodeUtf8 (write (.obj d)).toList) = some (.obj d) := by
  have htext : (write (.obj d)).toList = writeTo [] (.obj d) := by simp [write]
  obtain ⟨b, bytes, hb, hbytes⟩ : ∃ b bytes, b ≠ 0 ∧
      Charset.encodeUtf8 (writeTo [] (.obj d)) = 0x7b :: b :: bytes := by
    cases d with
    | nil => exact ⟨_, _, by decide, rfl⟩
    | cons e es => exact ⟨_, _, by decide, rfl⟩
  have hdecode := Charset.decode_encodeUtf8 (writeTo [] (.obj d))
  obtain ⟨marked, hcharset⟩ := charsetOf_brace hb bytes
  rw [htext]
  unfold readBytes?
  rw [hbytes] at hdecode ⊢
  rw [hcharset, decode_brace, hdecode]
  exact read?_writeTo hread hfloat

end Bytes

end ChatAudit.Json
