import ChatAudit.Proofs.Archive.Entry

/-! The directory of a written archive reads back. -/
namespace ChatAudit.Archive
open Bytes

variable {ms : List Stored}

section Entries
variable {offset fuel : Nat}

theorem length_bytes (m : Stored) : m.bytes.length = m.header.length + m.size := List.length_append

theorem body_cons (m : Stored) (ms : List Stored) : body (m :: ms) = m.bytes ++ body ms :=
  List.flatMap_cons

theorem entryLength_le (m : Stored) (offset : Nat) :
    entryLength ≤ (m.entryBytes offset).length := by
  rw [length_entryBytes]
  omega

/-- The loop over the directory, for the members from one on. -/
theorem readEntries_placed (hlength : offset + (body ms).length < 256 ^ 8)
    (hfuel : ms.length ≤ fuel) :
    readEntries 0 fuel ((placed offset ms).flatMap fun p => p.1.entryBytes p.2).length
        ((placed offset ms).flatMap fun p => p.1.entryBytes p.2) =
      .ok ((placed offset ms).map fun p => p.1.entry p.2) := by
  -- Each entry lowers what is left of the directory by its own length.
  induction ms generalizing offset fuel with
  | nil => cases fuel <;> rfl
  | cons m ms ih =>
    obtain ⟨fuel, rfl⟩ := Nat.exists_eq_add_one.mpr (Nat.zero_lt_of_lt hfuel)
    rw [body_cons, List.length_append] at hlength
    have hbytes := length_bytes m
    have hentry (rest : Bytes) : readEntry 0 (m.entryBytes offset ++ rest) =
        .ok (m.entry offset, (m.entryBytes offset).length) :=
      readEntry_entryBytes (by omega) (by omega) rest
    have hleft (n : Nat) : (m.entryBytes offset).length + n ≠ 0 := by
      have hlength := entryLength_le m offset
      have hentry : entryLength = 46 := rfl
      omega
    have hrest := @ih (offset + m.bytes.length) fuel (by omega) (Nat.le_of_succ_le_succ hfuel)
    rw [placed, List.flatMap_cons, List.length_append, readEntries, if_neg (hleft _)]
    simp only [hentry, hrest, Nat.add_sub_cancel_left, List.drop_left, bind, Except.bind, pure,
      Except.pure, List.map_cons]

theorem le_length_directory (offset : Nat) (ms : List Stored) :
    entryLength * ms.length ≤ ((placed offset ms).flatMap fun p => p.1.entryBytes p.2).length := by
  induction ms generalizing offset with
  | nil => exact Nat.le_refl 0
  | cons m ms ih =>
    have hentry := entryLength_le m offset
    have hrest := ih (offset + m.bytes.length)
    rw [placed, List.flatMap_cons, List.length_append, List.length_cons, Nat.mul_succ, Nat.add_comm]
    exact Nat.add_le_add hentry hrest

end Entries

section End

theorem slice_append_right (start length : Nat) (xs ys : Bytes) :
    slice (xs.length + start) length (xs ++ ys) = slice start length ys := by
  rw [slice, List.drop_length_add_append, slice]

/-- Archives that are read for what they are: all numbers have room in eight bytes, and a directory
that no locator follows does not end like one, as the name of the last member could. -/
structure Legible (ms : List Stored) : Prop where
  length_lt : (written ms).length < 256 ^ 8
  no_locator : isLarge ms = false →
    ((directory ms).drop ((directory ms).length - largeLocatorLength)).take 4 ≠ largeLocatorMark

/-- What is in front of the end record. -/
def front (ms : List Stored) : Bytes :=
  body ms ++ directory ms ++ if isLarge ms then largeEnd ms ++ largeLocator ms else []

theorem written_eq (ms : List Stored) : written ms = front ms ++ endRecord ms := rfl

theorem front_of_not_large (hlarge : isLarge ms = false) : front ms = body ms ++ directory ms := by
  rw [front, hlarge, if_neg Bool.false_ne_true, List.append_nil]

theorem front_of_large (hlarge : isLarge ms = true) :
    front ms = body ms ++ directory ms ++ (largeEnd ms ++ largeLocator ms) := by
  rw [front, if_pos hlarge]

theorem length_endRecord (ms : List Stored) : (endRecord ms).length = endLength := by
  simp only [endRecord, List.length_append, length_ofFields]
  rfl

theorem endPosition_written (ms : List Stored) :
    endPosition? (written ms) = some (front ms).length := by
  have hlast : (written ms).drop ((written ms).length - endLength) = endRecord ms := by
    rw [written_eq, List.length_append, length_endRecord, Nat.add_sub_cancel, List.drop_left]
  have hmark : (endRecord ms).take 4 = endMark := rfl
  have hcomment : (endRecord ms).drop 20 = [0, 0] := rfl
  simp only [endPosition?, hlast, length_endRecord, hmark, hcomment, decide_true, beq_self_eq_true,
    Bool.and_self, if_true]
  rw [written_eq, List.length_append, length_endRecord, Nat.add_sub_cancel]

theorem slice_written (k length : Nat) : slice ((front ms).length + k) length (written ms) =
    slice k length (endRecord ms) :=
  slice_append_right ..

/-- Without a locator the end of the directory stands in its place. -/
theorem slice_locator (hms : ms ≠ []) (hlarge : isLarge ms = false) :
    slice ((front ms).length - largeLocatorLength) largeLocatorLength (written ms) =
      (directory ms).drop ((directory ms).length - largeLocatorLength) := by
  have hroom : largeLocatorLength ≤ (directory ms).length := by
    have hone : entryLength * 1 ≤ entryLength * ms.length :=
      Nat.mul_le_mul_left entryLength (List.length_pos_of_ne_nil hms)
    exact Nat.le_trans (Nat.le_trans (by decide) hone) (le_length_directory 0 ms)
  have hplace : (front ms).length - largeLocatorLength =
      (body ms).length + ((directory ms).length - largeLocatorLength) := by
    rw [front_of_not_large hlarge, List.length_append]
    exact Nat.add_sub_assoc hroom _
  have hlength : ((directory ms).drop ((directory ms).length - largeLocatorLength)).length =
      largeLocatorLength := by
    rw [List.length_drop]
    exact Nat.sub_sub_self hroom
  rw [hplace, written_eq, front_of_not_large hlarge, List.append_assoc, slice_append_right, slice,
    List.drop_append_of_le_length (Nat.sub_le ..), List.take_left' hlength]

/-- The end record has its own numbers if they fit. -/
theorem endAt_of_not_large (hms : Legible ms) (hlarge : isLarge ms = false) :
    endAt (written ms) (front ms).length =
      .ok ⟨(directory ms).length, (body ms).length, (front ms).length⟩ := by
  have hlargest : largest = 2147483647 := rfl
  have hfits : ¬largest < (body ms).length ∧ ¬largest < (directory ms).length := by
    simp only [isLarge, Bool.or_eq_false_iff, decide_eq_false_iff_not] at hlarge
    exact ⟨hlarge.1.2, hlarge.2⟩
  have hsize : field ((front ms).length + 12) 4 (written ms) = (directory ms).length := by
    have hmin : min 0xffffffff (directory ms).length = (directory ms).length := by omega
    have hslice : slice 12 4 (endRecord ms) =
        ofNumber 4 (min 0xffffffff (directory ms).length) := rfl
    rw [field, slice_written, hslice, hmin, number_ofNumber (by omega)]
  have hoffset : field ((front ms).length + 16) 4 (written ms) = (body ms).length := by
    have hmin : min 0xffffffff (body ms).length = (body ms).length := by omega
    have hslice : slice 16 4 (endRecord ms) = ofNumber 4 (min 0xffffffff (body ms).length) := rfl
    rw [field, slice_written, hslice, hmin, number_ofNumber (by omega)]
  have hlocator : (slice ((front ms).length - largeLocatorLength) largeLocatorLength
      (written ms)).take 4 ≠ largeLocatorMark := by
    by_cases hempty : ms = []
    · rw [hempty]
      decide
    · rw [slice_locator hempty hlarge]
      exact hms.no_locator hlarge
  simp only [endAt, hsize, hoffset, bne_iff_ne.mpr hlocator, Bool.or_true, if_true]

theorem length_largeEnd (ms : List Stored) : (largeEnd ms).length = largeLength := by
  simp only [largeEnd, List.length_append, length_ofFields]
  rfl

theorem length_largeLocator (ms : List Stored) : (largeLocator ms).length = largeLocatorLength := by
  simp only [largeLocator, List.length_append, length_ofFields]
  rfl

/-- The numbers of large archives are in the record in front. -/
theorem endAt_of_large (hms : Legible ms) (hlarge : isLarge ms = true) :
    endAt (written ms) (front ms).length = .ok ⟨(directory ms).length, (body ms).length,
      ((body ms).length + (directory ms).length : Nat)⟩ := by
  have hfront := front_of_large hlarge
  have hlength : (front ms).length =
      (body ms ++ directory ms).length + largeLength + largeLocatorLength := by
    rw [hfront, List.length_append, @List.length_append _ (largeEnd ms), length_largeEnd,
      length_largeLocator, Nat.add_assoc]
  have hwhole : (body ms).length + (directory ms).length < 256 ^ 8 := by
    have hshort := hms.length_lt
    rw [written_eq, List.length_append, hlength, List.length_append] at hshort
    omega
  have hslice (k length : Nat) : slice ((body ms ++ directory ms).length + k) length (written ms) =
      slice k length (largeEnd ms ++ largeLocator ms ++ endRecord ms) := by
    rw [written_eq, hfront, List.append_assoc]
    exact slice_append_right ..
  have hrecord : slice ((front ms).length - largeLocatorLength - largeLength) largeLength
      (written ms) = largeEnd ms := by
    rw [hlength, Nat.add_sub_cancel, Nat.add_sub_cancel]
    exact hslice 0 largeLength
  have hlocator : slice ((front ms).length - largeLocatorLength) largeLocatorLength
      (written ms) = largeLocator ms := by
    rw [hlength, Nat.add_sub_cancel, hslice]
    rfl
  have hposition : ((front ms).length : Int) - largeLocatorLength - largeLength =
      ((body ms).length + (directory ms).length : Nat) := by
    rw [hlength, List.length_append]
    omega
  have hdisk : field 4 4 (largeLocator ms) = 0 := rfl
  have hdisks : field 16 4 (largeLocator ms) = 1 := rfl
  have hsize : field 40 8 (largeEnd ms) = (directory ms).length := field_of_slice (by omega) rfl
  have hoffset : field 48 8 (largeEnd ms) = (body ms).length := field_of_slice (by omega) rfl
  simp only [endAt, hlocator, hrecord, hposition, hdisk, hdisks, hsize, hoffset]
  rfl

theorem read_of_endPosition_none {bs : Bytes} (h : endPosition? bs = none) :
    Directory.read bs = .error .notArchive := by
  unfold Directory.read
  rw [h]
  rfl

/-- The directory of what was written. -/
def readBack (ms : List Stored) : Directory where
  start := (body ms).length
  entries := (placed 0 ms).map fun p => p.1.entry p.2

theorem read_written (hms : Legible ms) : Directory.read (written ms) = .ok (readBack ms) := by
  have hbody : (body ms).length < 256 ^ 8 := by
    have hshort := hms.length_lt
    rw [written, List.length_append, List.length_append, List.length_append] at hshort
    omega
  have hfuel : ms.length ≤ (directory ms).length := by
    have hcount : ms.length ≤ entryLength * ms.length := Nat.le_mul_of_pos_left _ (by decide)
    exact Nat.le_trans hcount (le_length_directory 0 ms)
  have hentries : readEntries 0 (directory ms).length (directory ms).length (directory ms) =
      .ok (readBack ms).entries := by
    rw [directory] at hfuel ⊢
    rw [readEntries_placed (by omega) hfuel]
    rfl
  obtain ⟨position, hend, hposition⟩ : ∃ position : Int,
      endAt (written ms) (front ms).length =
        .ok ⟨(directory ms).length, (body ms).length, position⟩ ∧
      position - (directory ms).length = (body ms).length := by
    cases hlarge : isLarge ms with
    | false =>
      refine ⟨_, endAt_of_not_large hms hlarge, ?_⟩
      rw [front_of_not_large hlarge, List.length_append]
      omega
    | true =>
      refine ⟨_, endAt_of_large hms hlarge, ?_⟩
      omega
  have hstart : ¬((body ms).length : Int) < 0 := by omega
  have hslice : slice (body ms).length (directory ms).length (written ms) = directory ms := by
    rw [written, List.append_assoc, List.append_assoc, slice, List.drop_left, List.take_left]
  unfold Directory.read
  rw [endPosition_written]
  dsimp only [bind, Except.bind]
  rw [hend]
  dsimp only
  rw [hposition, if_neg hstart, Int.toNat_natCast, Int.sub_self, hslice, hentries]
  rfl

end End
end ChatAudit.Archive
