import ChatAudit.Proofs.Archive.Directory
import Mathlib.Data.List.Sort
import Mathlib.Data.List.TakeWhile

/-! The members of a written archive read back. -/
namespace ChatAudit.Archive
open Bytes

variable {m : Stored} {ms : List Stored} {p q : Stored × Nat} {offset : Nat}

section Placed

theorem placed_fst (offset : Nat) (ms : List Stored) : (placed offset ms).map Prod.fst = ms := by
  induction ms generalizing offset with
  | nil => rfl
  | cons m ms ih => rw [placed, List.map_cons, ih]

/-- A member lies behind the ones before it. -/
theorem exists_of_mem_placed (h : p ∈ placed offset ms) :
    ∃ before after, ms = before ++ p.1 :: after ∧ p.2 = offset + (body before).length := by
  induction ms generalizing offset with
  | nil => cases h
  | cons m ms ih =>
    rcases List.mem_cons.mp h with rfl | h
    · exact ⟨[], ms, rfl, rfl⟩
    · obtain ⟨before, after, rfl, hoffset⟩ := ih h
      refine ⟨m :: before, after, rfl, ?_⟩
      rw [hoffset, body_cons, List.length_append, Nat.add_assoc]

theorem length_header (m : Stored) :
    m.header.length = headerLength + m.nameBytes.length + m.extra.length := by
  have hmark : headerMark.length = 4 := rfl
  have hheader : headerLength = 30 := rfl
  simp only [Stored.header, List.length_append, length_ofFields, List.map_cons, List.map_nil,
    List.sum_cons, List.sum_nil]
  omega

theorem placed_offsets (offset : Nat) (ms : List Stored) :
    (placed offset ms).Pairwise fun p q => p.2 < q.2 := by
  induction ms generalizing offset with
  | nil => exact .nil
  | cons m ms ih =>
    refine .cons (fun p hp => ?_) (ih _)
    obtain ⟨before, _, _, hoffset⟩ := exists_of_mem_placed hp
    have hheader := length_header m
    have hpos : headerLength = 30 := rfl
    have hbytes := length_bytes m
    omega

theorem eq_of_offset (hp : p ∈ placed offset ms) (hq : q ∈ placed offset ms) (h : p.2 = q.2) :
    p = q := by
  have hdistinct : ((placed offset ms).map Prod.snd).Nodup :=
    List.pairwise_map.mpr ((placed_offsets offset ms).imp Nat.ne_of_lt)
  exact List.inj_on_of_nodup_map hdistinct hp hq h

end Placed

section Content
variable {before rest : Bytes} {stop : Int} {k : Nat}

theorem testBit_flags (hk : 11 ≠ k) : m.flags.testBit k = false := by
  unfold Stored.flags
  split_ifs
  · exact Nat.zero_testBit k
  · exact Nat.testBit_two_pow_of_ne hk

theorem dataPosition_bytes : dataPosition (before ++ (m.bytes ++ rest)) (m.entry before.length) =
    .ok (before.length + m.header.length) := by
  have hslice (k length : Nat) : slice (before.length + k) length (before ++ (m.bytes ++ rest)) =
      slice k length (m.bytes ++ rest) :=
    slice_append_right ..
  have hheader : slice before.length headerLength (before ++ (m.bytes ++ rest)) =
      slice 0 headerLength (m.bytes ++ rest) :=
    hslice 0 headerLength
  have hlength : (slice 0 headerLength (m.bytes ++ rest)).length = headerLength := rfl
  have hmark : (slice 0 headerLength (m.bytes ++ rest)).take 4 = headerMark := rfl
  have hnameLength : field 26 2 (slice 0 headerLength (m.bytes ++ rest)) = m.nameBytes.length :=
    field_of_slice m.length_name rfl
  have hextraLength : field 28 2 (slice 0 headerLength (m.bytes ++ rest)) = m.extra.length := by
    have hextra : m.extra.length < 256 ^ 2 := by
      rw [Stored.extra, length_largeField]
      cases m.wide <;> simp
    exact field_of_slice hextra rfl
  have hflags : field 6 2 (slice 0 headerLength (m.bytes ++ rest)) = m.flags :=
    field_of_slice m.flags_lt rfl
  have hname : slice headerLength m.nameBytes.length (m.bytes ++ rest) = m.nameBytes := by
    have hdrop : (m.bytes ++ rest).drop headerLength =
        m.nameBytes ++ m.extra ++ m.content ++ rest := rfl
    rw [slice, hdrop, List.append_assoc, List.append_assoc, List.take_left]
  have hpatched : m.flags.testBit 5 = false := testBit_flags (by decide)
  have hstrong : m.flags.testBit 6 = false := testBit_flags (by decide)
  have hstart : ¬((before.length : Int) < 0) := by omega
  have hroom : min (before ++ (m.bytes ++ rest)).length
      (before.length + headerLength + m.nameBytes.length + m.extra.length) =
        before.length + m.header.length := by
    rw [length_header, List.length_append, List.length_append, length_bytes, length_header]
    omega
  unfold dataPosition
  simp only [Stored.entry, hstart, Int.toNat_natCast, hheader, hlength, hmark, hnameLength,
    hextraLength, hflags, hslice, hname, hpatched, hstrong, readName_nameBytes, Nat.lt_irrefl,
    bne_self_eq_false, if_false, Bool.false_eq_true, bind, Except.bind, pure, Except.pure, hroom]

/-- The content of a member that ends where the next one begins. -/
theorem readMember_bytes (hstop : (before.length + m.bytes.length : Nat) ≤ stop) :
    readMember (before ++ (m.bytes ++ rest)) (m.entry before.length) stop = .ok m.content := by
  have hroom : ¬stop < (before.length + m.header.length : Nat) + (m.size : Int) := by
    rw [length_bytes] at hstop
    omega
  have hencrypted : m.flags.testBit 0 = false := testBit_flags (by decide)
  have hdata : slice (before.length + m.header.length) m.size (before ++ (m.bytes ++ rest)) =
      m.content := by
    rw [slice_append_right, Stored.bytes, List.append_assoc, slice, List.drop_left, Stored.size,
      List.take_left]
  have hwhole : m.content.take m.size = m.content := List.take_length
  have hfull : ¬m.content.length < m.size := Nat.lt_irrefl _
  have hchecksum : (Crc32.checksum m.content).toNat = m.checksum := rfl
  unfold readMember
  rw [dataPosition_bytes]
  simp only [Stored.entry, hroom, hencrypted, hdata, unpack, hwhole, hfull, hchecksum,
    decide_false, Bool.false_and, bne_self_eq_false, if_false, Bool.false_eq_true, bind,
    Except.bind, pure, Except.pure]

end Content

section Ends

/-- Each member ends where the next one begins, and the last one at the directory. -/
theorem offsets_append (offset : Nat) (ms : List Stored) :
    (placed offset ms).map Prod.snd ++ [offset + (body ms).length] =
      offset :: (placed offset ms).map fun p => p.2 + p.1.bytes.length := by
  induction ms generalizing offset with
  | nil => rfl
  | cons m ms ih =>
    have hrest := ih (offset + m.bytes.length)
    rw [placed, body_cons, List.map_cons, List.cons_append, List.length_append, ← Nat.add_assoc,
      hrest, List.map_cons]

theorem sorted_entries (ms : List Stored) :
    (readBack ms).entries.mergeSort (fun a b => b.offset ≤ a.offset) =
      (readBack ms).entries.reverse := by
  have htrans (a b c : Entry) (hab : decide (b.offset ≤ a.offset) = true)
      (hbc : decide (c.offset ≤ b.offset) = true) : decide (c.offset ≤ a.offset) = true := by
    rw [decide_eq_true_eq] at hab hbc ⊢
    omega
  have htotal (a b : Entry) :
      (decide (b.offset ≤ a.offset) || decide (a.offset ≤ b.offset)) = true := by
    rw [Bool.or_eq_true, decide_eq_true_eq, decide_eq_true_eq]
    omega
  refine List.Perm.eq_of_pairwise ?_ (List.pairwise_mergeSort htrans htotal _) ?_
    ((List.mergeSort_perm _ _).trans (List.reverse_perm _).symm)
  · intro a b ha hb hab hba
    obtain ⟨p, hp, rfl⟩ := List.mem_map.mp (List.mem_mergeSort.mp ha)
    obtain ⟨q, hq, rfl⟩ := List.mem_map.mp (List.mem_reverse.mp hb)
    have hle : (q.2 : Int) ≤ p.2 := of_decide_eq_true hab
    have hge : (p.2 : Int) ≤ q.2 := of_decide_eq_true hba
    rw [eq_of_offset hp hq (by omega)]
  · rw [List.pairwise_reverse, readBack, List.pairwise_map]
    refine (placed_offsets 0 ms).imp fun hlt => decide_eq_true ?_
    exact Int.ofNat_le.mpr (Nat.le_of_lt hlt)

theorem ends_readBack (ms : List Stored) : (readBack ms).ends.reverse =
    (placed 0 ms).map fun p => (p.1.entry p.2, ((p.2 + p.1.bytes.length : Nat) : Int)) := by
  have hstops : ((readBack ms).start : Int) :: (readBack ms).entries.reverse.map Entry.offset =
      ((placed 0 ms).map fun p => ((p.2 + p.1.bytes.length : Nat) : Int)).reverse ++ [0] := by
    have hoffsets := congrArg (fun l => (l.map Nat.cast : List Int).reverse) (offsets_append 0 ms)
    simp only [List.map_append, List.map_cons, List.map_nil, List.reverse_append,
      List.reverse_cons, List.reverse_nil, List.nil_append, List.singleton_append, List.map_map,
      Nat.zero_add] at hoffsets
    have hentries : (readBack ms).entries.map Entry.offset =
        (placed 0 ms).map (Nat.cast ∘ Prod.snd) :=
      List.map_map
    rw [List.map_reverse, hentries]
    exact hoffsets
  have hlength : (readBack ms).entries.reverse.length =
      ((placed 0 ms).map fun p => ((p.2 + p.1.bytes.length : Nat) : Int)).reverse.length := by
    simp only [readBack, List.length_reverse, List.length_map]
  unfold Directory.ends
  rw [sorted_entries]
  dsimp only
  rw [hstops, ← List.append_nil (readBack ms).entries.reverse, List.zip_append hlength,
    List.zip_nil_left, List.append_nil, List.zip_eq_zipWith, List.reverse_zipWith hlength,
    List.reverse_reverse, List.reverse_reverse, ← List.zip_eq_zipWith, readBack, List.zip_map']

end Ends

section First

theorem name_entry (m : Stored) (offset : Nat) : (m.entry offset).name = m.name := by
  have hkept : ∀ c ∈ m.name.toList, (c.toNat != 0) = true := by
    intro c hc
    refine bne_iff_ne.mpr fun hzero => m.zero_not_mem ?_
    rwa [← Char.ofNat_toNat c, hzero] at hc
  rw [Entry.name, Stored.entry, List.takeWhile_eq_self_iff.mpr hkept, String.ofList_toList]

theorem find?_readBack (name : String) (ms : List Stored) : (readBack ms).find? name =
    ((placed 0 ms).reverse.find? fun p => p.1.name == name).map fun p => p.1.entry p.2 := by
  rw [Directory.find?, readBack, ← List.map_reverse, List.find?_map]
  simp only [Function.comp_def, name_entry]

theorem find?_ends (hp : p ∈ placed 0 ms) :
    ((readBack ms).ends.reverse.find? fun e => e.1 == p.1.entry p.2) =
      some (p.1.entry p.2, ((p.2 + p.1.bytes.length : Nat) : Int)) := by
  have hfind : (placed 0 ms).find? (fun q => q.1.entry q.2 == p.1.entry p.2) = some p := by
    cases hq : (placed 0 ms).find? (fun q => q.1.entry q.2 == p.1.entry p.2) with
    | none => exact absurd (beq_self_eq_true _) (List.find?_eq_none.mp hq p hp)
    | some q =>
      -- The offset tells a member from others with the same name and content.
      have hsame := List.find?_some hq
      have hentry : q.1.entry q.2 = p.1.entry p.2 := eq_of_beq hsame
      have hoffset : (q.2 : Int) = p.2 := congrArg Entry.offset hentry
      rw [eq_of_offset (List.mem_of_find?_eq_some hq) hp (Int.ofNat_inj.mp hoffset)]
  rw [ends_readBack, List.find?_map]
  exact congrArg _ hfind

theorem readMember_written (hp : p ∈ placed 0 ms) :
    readMember (written ms) (p.1.entry p.2) (p.2 + p.1.bytes.length : Nat) = .ok p.1.content := by
  obtain ⟨before, after, hms, hoffset⟩ := exists_of_mem_placed hp
  rw [Nat.zero_add] at hoffset
  have hwritten : ∃ rest, written ms = body before ++ (p.1.bytes ++ rest) := by
    refine ⟨body after ++ directory ms ++
      (if isLarge ms then largeEnd ms ++ largeLocator ms else []) ++ endRecord ms, ?_⟩
    have hbody : body ms = body before ++ (p.1.bytes ++ body after) := by
      rw [hms, body, List.flatMap_append, List.flatMap_cons, body, body]
    rw [written, hbody]
    simp only [List.append_assoc]
  obtain ⟨rest, hrest⟩ := hwritten
  rw [hrest, hoffset]
  exact readMember_bytes (Int.le_refl _)

/-- The member that is told for the first one: the last one with its name. -/
def told? (ms : List Stored) : Option Stored :=
  ms.head?.bind fun m => ms.reverse.find? fun n => n.name == m.name

theorem told?_cons (m : Stored) (ms : List Stored) : told? (m :: ms) =
    ((placed 0 (m :: ms)).reverse.find? fun p => p.1.name == m.name).map Prod.fst := by
  have hmembers := congrArg List.reverse (placed_fst 0 (m :: ms))
  rw [← List.map_reverse] at hmembers
  rw [told?, ← hmembers, List.head?_cons, Option.bind_some, List.find?_map]
  rfl

theorem firstMember?_written (hms : Legible ms) :
    firstMember? (written ms) = .ok ((told? ms).map Stored.content) := by
  unfold firstMember?
  rw [read_written hms]
  cases ms with
  | nil => rfl
  | cons m ms =>
    have hfirst : (readBack (m :: ms)).entries.head? = some (m.entry 0) := rfl
    rw [told?_cons]
    dsimp only [bind, Except.bind]
    rw [hfirst]
    dsimp only [Option.bind]
    rw [name_entry, find?_readBack]
    cases hfind : (placed 0 (m :: ms)).reverse.find? fun p => p.1.name == m.name with
    | none => rfl
    | some p =>
      have hp : p ∈ placed 0 (m :: ms) :=
        List.mem_reverse.mp (List.mem_of_find?_eq_some hfind)
      dsimp only [Option.map_some]
      rw [find?_ends hp]
      dsimp only [Option.elim]
      rw [readMember_written hp]
      rfl

end First
end ChatAudit.Archive
