import ChatAudit.Export.Text
import ChatAudit.Proofs.Archive.Member
import ChatAudit.Proofs.Text.Parts

/-! Which exports are told by their first member, and which by their own bytes. -/
namespace ChatAudit.File
open Archive

variable {f : File} {label : String} {bytes : List UInt8} {ms : List Stored}

theorem decode_of_ne_nil (hbytes : bytes ≠ []) (label : String) : decode label bytes =
    (Charset.ofLabel label).mapError .label >>= fun c =>
      (c.decode bytes).mapError .text >>= fun cs => .ok (String.ofList cs) := by
  rw [decode, List.isEmpty_eq_false_iff.mpr hbytes]
  rfl

/-- Texts that were written in UTF-8 read back. -/
theorem decode_encodeUtf8 (hlabel : Charset.ofLabel label = .ok (.utf8 false)) (s : String) :
    decode label (Charset.encodeUtf8 s.toList) = .ok s := by
  by_cases hempty : Charset.encodeUtf8 s.toList = []
  · have hs : s.toList = [] := by
      cases hcs : s.toList with
      | nil => rfl
      | cons c cs => simp [hcs, Charset.encodeUtf8, String.utf8EncodeChar_ne_nil] at hempty
    rw [hempty, String.toList_eq_nil_iff.mp hs]
    rfl
  · rw [decode_of_ne_nil hempty, hlabel]
    simp only [Charset.decode_encodeUtf8, Except.mapError, bind, Except.bind, String.ofList_toList]

theorem decode_ne_empty (hbytes : 4 < bytes.length) (label : String) :
    decode label bytes ≠ .ok "" := by
  rw [decode_of_ne_nil (List.ne_nil_of_length_pos (Nat.zero_lt_of_lt hbytes))]
  cases Charset.ofLabel label with
  | error e => exact nofun
  | ok c =>
    intro h
    cases hc : c.decode bytes with
    | error e => simp [hc, Except.mapError, bind, Except.bind] at h
    | ok cs =>
      have hcs : String.ofList cs = "" := by simpa [hc, Except.mapError, bind, Except.bind] using h
      obtain rfl : cs = [] := String.ofList_eq_empty_iff.mp hcs
      exact Charset.decode_ne_nil hbytes c hc

theorem decode_ne_archive (label : String) (bytes : List UInt8) (fault : Archive.Fault) :
    decode label bytes ≠ .error (.archive fault) := by
  by_cases hbytes : bytes = []
  · rw [hbytes]
    exact nofun
  · rw [decode_of_ne_nil hbytes]
    cases Charset.ofLabel label with
    | error e => exact nofun
    | ok c =>
      cases hc : c.decode bytes with
      | error e => simp [hc, Except.mapError, bind, Except.bind]
      | ok cs => simp [hc, Except.mapError, bind, Except.bind]

theorem isZip_iff (f : File) : f.isZip = true ↔
    "zip".toList <:+: f.contentType.toList ∨ archiveMark <+: f.content := by
  rw [isZip, Bool.or_eq_true, Text.occurs_iff, beq_iff_eq, List.prefix_iff_eq_take]
  exact or_congr_right eq_comm

/-- The text of the first member. -/
def firstText (label : String) : List Stored → Except TextFault String
  | [] => .ok ""
  | m :: _ => decode label m.content

theorem text_of_not_zip (h : f.isZip = false) (label : String) :
    f.text label = decode label f.content := by
  rw [text, h]
  rfl

theorem text_of_written (hzip : f.isZip = true) (hf : f.content = written ms) (hms : Legible ms)
    (label : String) : f.text label = firstText label (told? ms).toList := by
  rw [text, hzip, if_pos rfl, hf, firstMember?_written hms]
  cases told? ms <;> rfl

theorem text_of_not_archive {fault : Archive.Fault} (hzip : f.isZip = true)
    (hf : Directory.read f.content = .error fault) (label : String) :
    f.text label = .error (.archive fault) := by
  have hmember : firstMember? f.content = .error fault := by
    rw [firstMember?, hf]
    rfl
  rw [text, hzip, if_pos rfl, hmember]
  rfl

/-- An archive shows by its content that it is one, unless it has no members. -/
theorem archiveMark_prefix_written (ms : List Stored) : archiveMark <+: written ms ↔ ms ≠ [] := by
  cases ms with
  | nil => decide
  | cons m ms => exact iff_of_true ⟨_, rfl⟩ (List.cons_ne_nil m ms)

/-- An archive is told by its first member iff its type or its content shows that it is one, and no
member with another text has the name of the first one. Anything else is told by its own bytes iff
neither type nor content has the look of an archive. -/
theorem text_unpacks_iff (f : File) (label : String) :
    (∀ ms, f.content = written ms → Legible ms →
      (f.text label = firstText label ms ↔
        ("zip".toList <:+: f.contentType.toList ∨ ms ≠ []) ∧
          firstText label (told? ms).toList = firstText label ms)) ∧
    ∀ fault, Directory.read f.content = .error fault →
      (f.text label = decode label f.content ↔
        ¬"zip".toList <:+: f.contentType.toList ∧ ¬archiveMark <+: f.content) := by
  refine ⟨fun ms hf hms => ?_, fun fault hf => ?_⟩
  · have hlook : f.isZip = true ↔ "zip".toList <:+: f.contentType.toList ∨ ms ≠ [] := by
      rw [isZip_iff, hf, archiveMark_prefix_written]
    rw [← hlook]
    cases hzip : f.isZip with
    | true => simp only [text_of_written hzip hf hms, true_and]
    | false =>
      have hempty : ms = [] := by
        by_contra hne
        exact Bool.false_ne_true (hzip.symm.trans (hlook.mpr (.inr hne)))
      have hraw : f.text label ≠ .ok "" := by
        rw [text_of_not_zip hzip, hf, hempty]
        exact decode_ne_empty (by decide) label
      rw [hempty]
      exact iff_of_false hraw fun h => Bool.false_ne_true h.1
  · rw [← not_or, ← isZip_iff]
    cases hzip : f.isZip with
    | true =>
      rw [text_of_not_archive hzip hf]
      exact iff_of_false (decode_ne_archive label f.content fault).symm fun h => h rfl
    | false => exact iff_of_true (text_of_not_zip hzip label) Bool.false_ne_true

/-- An archive under a type that says little, with a log that is given twice and a name that is not
ASCII, and a text. -/
theorem packed_unpacks :
    let log : Stored := {
      name := "logs.txt", content := Charset.encodeUtf8 "id: 1\n".toList, stamp := 0, system := 3,
      attributes := 0, wide := false, zero_not_mem := by decide, length_name := by decide,
      wide_of_large := by decide }
    let other : Stored := {
      name := "März.bin", content := [0xff], stamp := 0, system := 0, attributes := 0,
      wide := true, zero_not_mem := by decide, length_name := by decide,
      wide_of_large := by decide }
    let packed : File :=
      ⟨"logs.zip", "application/octet-stream", written [log, other, log], false⟩
    let plain : File := ⟨"logs.txt", "text/plain", Charset.encodeUtf8 "id: 1\n".toList, false⟩
    Legible [log, other, log] ∧ packed.text "utf-8" = .ok "id: 1\n" ∧
      Directory.read plain.content = .error .notArchive ∧ plain.text "utf-8" = .ok "id: 1\n" := by
  intro log other packed plain
  have hdecode : decode "utf-8" (Charset.encodeUtf8 "id: 1\n".toList) = .ok "id: 1\n" :=
    decode_encodeUtf8 rfl _
  have hlegible : Legible [log, other, log] := ⟨by decide +kernel, fun _ => by decide +kernel⟩
  have hplain : Directory.read plain.content = .error .notArchive :=
    read_of_endPosition_none (by decide +kernel)
  refine ⟨hlegible, ?_, hplain, ?_⟩
  · rw [← hdecode]
    exact ((text_unpacks_iff packed "utf-8").1 _ rfl hlegible).mpr
      ⟨.inr (List.cons_ne_nil _ _), rfl⟩
  · have htype : ¬"zip".toList <:+: plain.contentType.toList := by
      rw [← Text.occurs_iff]
      decide
    rw [← hdecode]
    exact ((text_unpacks_iff plain "utf-8").2 _ hplain).mpr ⟨htype, by decide⟩

/-- An archive without members is told by its own bytes unless its type gives it away. -/
theorem empty_archive_not_unpacked :
    let f : File := ⟨"f", "application/octet-stream", written [], false⟩
    Legible [] ∧ f.text "utf-8" ≠ firstText "utf-8" [] := by
  intro f
  refine ⟨⟨by decide, fun _ => by decide⟩, ?_⟩
  rw [text_of_not_zip (by decide)]
  exact decode_ne_empty (by decide) "utf-8"

end ChatAudit.File
