import ChatAudit.Json.Token
import ChatAudit.Json.Writer
import ChatAudit.Proofs.Calendar.Iso
import ChatAudit.Proofs.Json.Readable

/-! The text of a value falls into the words, texts and marks that it was put together from. -/
namespace ChatAudit.Json
open Text

variable {c : Char} {cs rest before : List Char} {done : List Token} {v : Json} {n : Nat}

mutual

/-- What the text of a value is put together from. -/
def tokens : Json → List Token
  | .str s => [.text s]
  | .arr vs => .beginArray :: (itemTokens true vs ++ [.endArray])
  | .obj es => .beginObject :: (entryTokens true es ++ [.endObject])
  | v => [.word v]

def itemTokens (first : Bool) : List Json → List Token
  | [] => []
  | v :: vs => (if first then [] else [.comma]) ++ tokens v ++ itemTokens false vs

def entryTokens (first : Bool) : List (String × Json) → List Token
  | [] => []
  | (k, v) :: es =>
    (if first then [] else [.comma]) ++ [.text k, .colon] ++ tokens v ++ entryTokens false es

end

/-- Whether a word in front ends here. -/
def Stops (cs : List Char) : Prop := ∀ c ∈ cs.head?, isWordChar c = false

section Words

theorem start?_of_isWordChar (h : isWordChar c) : start? c = some ([], .word [c]) := by
  have hmarks : ∀ d ∈ [' ', '\t', '\n', '\r', '"', '[', ']', '\x7b', '\x7d', ',', ':'],
      !isWordChar d := List.all_eq_true.mp rfl
  have hne : ∀ d ∈ [' ', '\t', '\n', '\r', '"', '[', ']', '\x7b', '\x7d', ',', ':'], c ≠ d := by
    rintro d hd rfl
    have hmark := hmarks c hd
    rw [h] at hmark
    cases hmark
  have hmark : mark? c = none := by
    unfold mark?
    split <;> first
      | rfl
      | exact absurd rfl (hne _ (by decide))
  simp only [List.mem_cons, List.not_mem_nil, or_false, forall_eq_or_imp, forall_eq] at hne
  simp [start?, isGap, hmark, h, hne]

/-- A word goes as far as its characters do. -/
theorem lexFrom_word (hcs : ∀ c ∈ cs, isWordChar c) (hrest : Stops rest)
    (hv : ofWord? (before.reverse ++ cs) = some v) :
    lexFrom (.word before) done (cs ++ rest) = lexFrom .between (.word v :: done) rest := by
  induction cs generalizing before with
  | nil =>
    rw [List.append_nil] at hv
    cases rest with
    | nil => simp [lexFrom, hv]
    | cons d rest =>
      have hd : isWordChar d = false := hrest d rfl
      simp only [List.nil_append, lexFrom, Mode.step?, hd, hv]
      cases start? d with
      | none => rfl
      | some next => simp
  | cons c cs ih =>
    obtain ⟨hc, hcs⟩ := List.forall_mem_cons.mp hcs
    have hv' : ofWord? ((c :: before).reverse ++ cs) = some v := by simpa using hv
    simp only [List.cons_append, lexFrom, Mode.step?, hc]
    exact ih hcs hv'

theorem lexFrom_of_ofWord? (hcs : ∀ c ∈ cs, isWordChar c) (hv : ofWord? cs = some v)
    (hrest : Stops rest) :
    lexFrom .between done (cs ++ rest) = lexFrom .between (.word v :: done) rest := by
  cases cs with
  | nil => cases hv
  | cons c cs =>
    obtain ⟨hc, hcs⟩ := List.forall_mem_cons.mp hcs
    simp only [List.cons_append, lexFrom, Mode.step?, start?_of_isWordChar hc]
    exact lexFrom_word hcs hrest hv

end Words

section Numbers

/-- Only zero has a zero in front. -/
theorem head?_toDigits (hn : 0 < n) : ∀ c ∈ (Nat.toDigits 10 n).head?, c ≠ '0' := by
  induction n using Nat.strongRecOn with
  | ind n ih =>
    by_cases hlt : n < 10
    · intro c hc
      rw [Nat.toDigits_of_lt_base hlt] at hc
      obtain rfl := Option.some.inj hc
      rw [Ne, Nat.digitChar_eq_zero]
      omega
    · rw [Nat.toDigits_of_base_le (by decide) (by omega), List.head?_append_of_ne_nil]
      · exact ih (n / 10) (by omega) (by omega)
      · exact Nat.toDigits_ne_nil

theorem digitRun_toDigits (n : Nat) :
    Binary64.digitRun (Nat.toDigits 10 n) = ((Nat.toDigits 10 n).map digitValue, []) :=
  Timestamp.digitRun_of_digits fun _ => isDigit_of_mem_toDigits

/-- The digits of a number as the reader takes them, with no zero in front of others. -/
theorem exists_digits (n : Nat) : ∃ d ds, (Nat.toDigits 10 n).map digitValue = d :: ds ∧
    (d = 0 → ds = []) ∧ Text.ofDigits 10 (d :: ds) = n := by
  have hvalue := ofDigits_toDigits n
  obtain ⟨c, cs, hcs, hdigit⟩ := exists_cons_toDigits n
  rw [hcs] at hvalue
  refine ⟨digitValue c, cs.map digitValue, by rw [hcs, List.map_cons], ?_, hvalue⟩
  intro hzero
  by_cases hn : n = 0
  · subst hn
    rw [Nat.toDigits_zero] at hcs
    obtain ⟨-, rfl⟩ := List.cons.inj hcs
    rfl
  · have hc : c ≠ '0' := by
      apply head?_toDigits (Nat.pos_of_ne_zero hn)
      rw [hcs]
      rfl
    -- the one digit that counts nothing is zero
    have hrange : 48 ≤ c.toNat ∧ c.toNat ≤ 57 := Char.isDigit_iff_toNat.mp hdigit
    have hcode : c.toNat = 48 := by
      have hsub : c.toNat - 48 = 0 := hzero
      omega
    exact absurd (Char.toNat_inj.mp hcode) hc

theorem number?_toDigits (negative : Bool)
    (hn : (Nat.toDigits 10 n).length ≤ Text.maxDigits) :
    number? negative (Nat.toDigits 10 n) = some (.int (if negative then -(n : Int) else n)) := by
  have hrun := digitRun_toDigits n
  obtain ⟨d, ds, hds, hzero, hvalue⟩ := exists_digits n
  have hlength : (d :: ds).length ≤ Text.maxDigits := by
    rw [← hds, List.length_map]
    exact hn
  rw [hds] at hrun
  have hwhole : wholePart? (d :: ds) = some n := by
    unfold wholePart?
    split
    · next heq => cases heq
    · next heq =>
      obtain ⟨rfl, rfl⟩ := List.cons.inj heq
      cases hzero rfl
    · rw [if_pos hlength, hvalue]
  unfold number?
  rw [hrun]
  cases d with
  | zero =>
    obtain rfl := hzero rfl
    simp only [hwhole]
    rfl
  | succ d =>
    simp only [hwhole]
    rfl

theorem toList_toString (n : Int) : (toString n).toList =
    if 0 ≤ n then Nat.toDigits 10 n.natAbs else '-' :: Nat.toDigits 10 n.natAbs := by
  rw [Int.toString_eq_repr, Int.repr_eq_if]
  split_ifs with hn
  · have hnat : n.toNat = n.natAbs := by omega
    rw [hnat, Nat.toList_repr]
  · have hnat : (-n).toNat = n.natAbs := by omega
    rw [hnat, String.toList_append, Nat.toList_repr]
    rfl

theorem isWordChar_of_isDigit (h : c.isDigit) : isWordChar c := by
  simp [isWordChar, Char.isAlphanum, h]

theorem isWordChar_of_mem_toString {n : Int} (h : c ∈ (toString n).toList) : isWordChar c := by
  have hdigit : c ∈ Nat.toDigits 10 n.natAbs → isWordChar c := fun hc =>
    isWordChar_of_isDigit (isDigit_of_mem_toDigits hc)
  rw [toList_toString] at h
  split_ifs at h
  · exact hdigit h
  · rcases List.mem_cons.mp h with rfl | h
    · decide
    · exact hdigit h

theorem ofWord?_toString {n : Int} (hn : Readable (.int n)) :
    ofWord? (toString n).toList = some (.int n) := by
  have hlength := readable_int_iff.mp hn
  obtain ⟨c, cs, hcs, hc⟩ := exists_cons_toDigits n.natAbs
  have hne : ∀ d ∈ ['-', 'n', 't', 'f', 'N', 'I'], c ≠ d := by
    intro d hd heq
    have hother : ∀ d ∈ ['-', 'n', 't', 'f', 'N', 'I'], !d.isDigit := List.all_eq_true.mp rfl
    have hdigit := hother d hd
    rw [← heq, hc] at hdigit
    cases hdigit
  simp only [List.mem_cons, List.not_mem_nil, or_false, forall_eq_or_imp, forall_eq] at hne
  rw [toList_toString]
  by_cases hsign : 0 ≤ n
  · have hvalue : (n.natAbs : Int) = n := by omega
    have hnumber := number?_toDigits false hlength
    rw [hcs, if_neg Bool.false_ne_true, hvalue] at hnumber
    rw [if_pos hsign, hcs]
    simp [ofWord?, hne, hnumber]
  · have hvalue : -(n.natAbs : Int) = n := by omega
    have hnumber := number?_toDigits true hlength
    rw [hcs, if_pos rfl, hvalue] at hnumber
    rw [if_neg hsign, hcs]
    simp [ofWord?, hne, hnumber]

end Numbers

section Texts

theorem hexValue?_hexDigit : ∀ m, m < 16 → Text.hexValue? (Text.hexDigit m) = some m := by decide

/-- Four digits spell a code unit. -/
theorem lexFrom_code (d : Draft) (hn : n < 16 ^ 4) :
    lexFrom (.code d 4 0) done (Text.hexDigits 4 n ++ rest) =
      lexFrom (.text (d.pushUnit n)) done rest := by
  have hdigit (m : Nat) : Text.hexValue? (Text.hexDigit (m % 16)) = some (m % 16) :=
    hexValue?_hexDigit (m % 16) (Nat.mod_lt m (by decide))
  have hsum : 16 * (16 * (16 * (16 * 0 + n / 16 / 16 / 16 % 16) + n / 16 / 16 % 16) + n / 16 % 16) +
      n % 16 = n := by omega
  simp only [Text.hexDigits, List.nil_append, List.cons_append, lexFrom, Mode.step?, hdigit,
    Option.map_some, Nat.reduceLeDiff, Nat.reduceSub, if_false, if_true, le_refl, hsum,
    List.reverse_nil]

/-- An escaped character is taken for itself. -/
theorem lexFrom_escapedChar (c : Char) :
    lexFrom (.text ⟨before, none⟩) done (escapedChar c ++ rest) =
      lexFrom (.text ⟨c :: before, none⟩) done rest := by
  unfold escapedChar
  split_ifs with hquote hback hline hreturn htab hfeed hbackspace hcontrol
  · obtain rfl := beq_iff_eq.mp hquote
    rfl
  · obtain rfl := beq_iff_eq.mp hback
    rfl
  · obtain rfl := beq_iff_eq.mp hline
    rfl
  · obtain rfl := beq_iff_eq.mp hreturn
    rfl
  · obtain rfl := beq_iff_eq.mp htab
    rfl
  · have hcode : c.toNat = '\x0c'.toNat := beq_iff_eq.mp hfeed
    obtain rfl := Char.toNat_inj.mp hcode
    rfl
  · have hcode : c.toNat = '\x08'.toNat := beq_iff_eq.mp hbackspace
    obtain rfl := Char.toNat_inj.mp hcode
    rfl
  · have hescape : lexFrom (.text ⟨before, none⟩) done
        ('\\' :: 'u' :: Text.hexDigits 4 c.toNat ++ rest) =
          lexFrom (.code ⟨before, none⟩ 4 0) done (Text.hexDigits 4 c.toNat ++ rest) := rfl
    have hunit : Draft.pushUnit ⟨before, none⟩ c.toNat = ⟨c :: before, none⟩ := by
      have hhigh : ¬0xd800 ≤ c.toNat := by omega
      have hlow : ¬0xdc00 ≤ c.toNat := by omega
      simp [Draft.pushUnit, hhigh, hlow, Draft.push, Draft.flush]
    rw [hescape, lexFrom_code _ (by omega), hunit]
  · simp [lexFrom, Mode.step?, hquote, hback, hcontrol, Draft.push, Draft.flush]

theorem lexFrom_text (cs : List Char) :
    lexFrom (.text ⟨before, none⟩) done (cs.flatMap escapedChar ++ '"' :: rest) =
      lexFrom .between (.text (String.ofList (before.reverse ++ cs)) :: done) rest := by
  induction cs generalizing before with
  | nil =>
    rw [List.append_nil]
    rfl
  | cons c cs ih =>
    rw [List.flatMap_cons, List.append_assoc, lexFrom_escapedChar, ih]
    simp

theorem lexFrom_writeText (s : String) :
    lexFrom .between done (writeText s ++ rest) = lexFrom .between (.text s :: done) rest := by
  have hopen : lexFrom .between done (writeText s ++ rest) =
      lexFrom (.text ⟨[], none⟩) done (s.toList.flatMap escapedChar ++ '"' :: rest) := by
    unfold writeText
    rw [List.append_assoc]
    rfl
  rw [hopen, lexFrom_text, List.reverse_nil, List.nil_append, String.ofList_toList]

end Texts

section Values

theorem stops_cons (h : isWordChar c = false) : Stops (c :: rest) := by
  intro d hd
  obtain rfl := Option.some.inj hd
  exact h

theorem stops_writeItems (hrest : Stops rest) (vs : List Json) :
    Stops (writeItems false rest vs) := by
  cases vs with
  | nil => exact hrest
  | cons v vs => exact stops_cons (by decide)

theorem stops_writeEntries (hrest : Stops rest) (es : List (String × Json)) :
    Stops (writeEntries false rest es) := by
  cases es with
  | nil => exact hrest
  | cons e es => exact stops_cons (by decide)

theorem lexFrom_mark {t : Token} (h : mark? c = some t) :
    lexFrom .between done (c :: rest) = lexFrom .between (t :: done) rest := by
  unfold mark? at h
  split at h <;> first
    | (obtain rfl := Option.some.inj h; rfl)
    | cases h

/-- What a literal or a whole number is written as is one word. -/
theorem lexFrom_literal (hcs : ∀ c ∈ cs, isWordChar c) (hv : ofWord? cs = some v)
    (htokens : tokens v = [.word v]) (hrest : Stops rest) :
    lexFrom .between done (cs ++ rest) =
      lexFrom .between ((tokens v).reverse ++ done) rest := by
  rw [lexFrom_of_ofWord? hcs hv hrest, htokens]
  rfl

mutual

theorem lexFrom_writeTo : (v : Json) → v.Readable → v.Floatless → ∀ rest done, Stops rest →
    lexFrom .between done (writeTo rest v) = lexFrom .between ((tokens v).reverse ++ done) rest
  | .null, _, _, _, _, hrest => lexFrom_literal (List.all_eq_true.mp rfl) rfl rfl hrest
  | .bool true, _, _, _, _, hrest => lexFrom_literal (List.all_eq_true.mp rfl) rfl rfl hrest
  | .bool false, _, _, _, _, hrest => lexFrom_literal (List.all_eq_true.mp rfl) rfl rfl hrest
  | .int _, hread, _, _, _, hrest =>
    lexFrom_literal (fun _ => isWordChar_of_mem_toString) (ofWord?_toString hread) rfl hrest
  | .float x, _, hfloat, _, _, _ => absurd .self (hfloat x)
  | .str s, _, _, _, _, _ => lexFrom_writeText s
  | .arr vs, hread, hfloat, rest, done, _ => by
    have hstops : Stops (']' :: rest) := stops_cons (by decide)
    rw [writeTo, lexFrom_mark (t := .beginArray) rfl,
      lexFrom_writeItems vs (readable_arr_iff.mp hread) (floatless_arr_iff.mp hfloat) true _ _ hstops,
      lexFrom_mark (t := .endArray) rfl]
    simp [tokens]
  | .obj es, hread, hfloat, rest, done, _ => by
    have hstops : Stops ('\x7d' :: rest) := stops_cons (by decide)
    rw [writeTo, lexFrom_mark (t := .beginObject) rfl,
      lexFrom_writeEntries es (readable_obj_iff.mp hread).2 (floatless_obj_iff.mp hfloat) true _ _
        hstops,
      lexFrom_mark (t := .endObject) rfl]
    simp [tokens]

theorem lexFrom_writeItems : (vs : List Json) → (∀ v ∈ vs, v.Readable) →
    (∀ v ∈ vs, v.Floatless) → ∀ first rest done, Stops rest →
    lexFrom .between done (writeItems first rest vs) =
      lexFrom .between ((itemTokens first vs).reverse ++ done) rest
  | [], _, _, _, _, _, _ => rfl
  | v :: vs, hread, hfloat, first, rest, done, hrest => by
    obtain ⟨hv, hvs⟩ := List.forall_mem_cons.mp hread
    obtain ⟨hfv, hfvs⟩ := List.forall_mem_cons.mp hfloat
    have hstops := stops_writeItems hrest vs
    have hitem (done : List Token) :
        lexFrom .between done (writeTo (writeItems false rest vs) v) =
          lexFrom .between ((itemTokens true (v :: vs)).reverse ++ done) rest := by
      rw [lexFrom_writeTo v hv hfv _ _ hstops, lexFrom_writeItems vs hvs hfvs false _ _ hrest]
      simp [itemTokens]
    cases first with
    | true => exact hitem done
    | false =>
      have hcomma : lexFrom .between done (writeItems false rest (v :: vs)) =
          lexFrom .between (.comma :: done) (writeTo (writeItems false rest vs) v) := rfl
      rw [hcomma, hitem]
      simp [itemTokens]

theorem lexFrom_writeEntries : (es : List (String × Json)) → (∀ e ∈ es, e.2.Readable) →
    (∀ e ∈ es, e.2.Floatless) → ∀ first rest done, Stops rest →
    lexFrom .between done (writeEntries first rest es) =
      lexFrom .between ((entryTokens first es).reverse ++ done) rest
  | [], _, _, _, _, _, _ => rfl
  | (k, v) :: es, hread, hfloat, first, rest, done, hrest => by
    obtain ⟨hv, hes⟩ := List.forall_mem_cons.mp hread
    obtain ⟨hfv, hfes⟩ := List.forall_mem_cons.mp hfloat
    have hstops := stops_writeEntries hrest es
    have hentry (done : List Token) :
        lexFrom .between done (writeText k ++ ':' :: writeTo (writeEntries false rest es) v) =
          lexFrom .between ((entryTokens true ((k, v) :: es)).reverse ++ done) rest := by
      rw [lexFrom_writeText, lexFrom_mark (t := .colon) rfl, lexFrom_writeTo v hv hfv _ _ hstops,
        lexFrom_writeEntries es hes hfes false _ _ hrest]
      simp [entryTokens]
    cases first with
    | true => exact hentry done
    | false =>
      have hcomma : lexFrom .between done (writeEntries false rest ((k, v) :: es)) =
          lexFrom .between (.comma :: done)
            (writeText k ++ ':' :: writeTo (writeEntries false rest es) v) := rfl
      rw [hcomma, hentry]
      simp [entryTokens]

end

theorem lex?_writeTo (hread : v.Readable) (hfloat : v.Floatless) :
    lex? (writeTo [] v) = some (tokens v) := by
  unfold lex?
  rw [lexFrom_writeTo v hread hfloat [] [] nofun, List.append_nil]
  simp [lexFrom]

end Values

end ChatAudit.Json
