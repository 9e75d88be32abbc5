import ChatAudit.Json.Reader
import ChatAudit.Proofs.Dict
import ChatAudit.Proofs.Text.Digits
import Mathlib.Data.List.Induction

/-! What a JSON document can hold: every value that is read from one, at any depth. -/
namespace ChatAudit.Json

/-- Whether a value is another one or lies somewhere in it. -/
inductive Within (w : Json) : Json → Prop
  | self : Within w w
  | item {v : Json} {vs : List Json} : v ∈ vs → Within w v → Within w (.arr vs)
  | entry {e : String × Json} {es : Dict Json} : e ∈ es → Within w e.2 → Within w (.obj es)

/-- Whether a document can hold the value. -/
structure Readable (v : Json) : Prop where
  /-- The reader takes whole numbers up to a limit. -/
  digits : ∀ n : Int, Within (.int n) v → (Nat.toDigits 10 n.natAbs).length ≤ Text.maxDigits
  keys : ∀ es : Dict Json, Within (.obj es) v → es.keys.Nodup

/-- Whether no number in the value is a double. -/
def Floatless (v : Json) : Prop := ∀ x, ¬Within (.float x) v

variable {v : Json} {vs : List Json} {d : Dict Json} {key : String}

section Parts

theorem readable_arr_iff : Readable (.arr vs) ↔ ∀ v ∈ vs, v.Readable := by
  constructor
  · intro h v hv
    constructor
    · intro n hn
      exact h.digits n (.item hv hn)
    · intro es hes
      exact h.keys es (.item hv hes)
  · intro h
    constructor
    · intro n hn
      cases hn with
      | item hv hn => exact (h _ hv).digits n hn
    · intro es hes
      cases hes with
      | item hv hes => exact (h _ hv).keys es hes

theorem readable_obj_iff : Readable (.obj d) ↔ d.keys.Nodup ∧ ∀ e ∈ d, e.2.Readable := by
  constructor
  · intro h
    refine ⟨h.keys d .self, fun e he => ?_⟩
    constructor
    · intro n hn
      exact h.digits n (.entry he hn)
    · intro es hes
      exact h.keys es (.entry he hes)
  · rintro ⟨hd, h⟩
    constructor
    · intro n hn
      cases hn with
      | entry he hn => exact (h _ he).digits n hn
    · intro es hes
      cases hes with
      | self => exact hd
      | entry he hes => exact (h _ he).keys es hes

theorem readable_int_iff {n : Int} :
    Readable (.int n) ↔ (Nat.toDigits 10 n.natAbs).length ≤ Text.maxDigits := by
  constructor
  · intro h
    exact h.digits n .self
  · intro h
    constructor
    · rintro _ ⟨⟩
      exact h
    · rintro _ ⟨⟩

theorem readable_null : Readable .null := ⟨nofun, nofun⟩

theorem readable_bool (b : Bool) : Readable (.bool b) := ⟨nofun, nofun⟩

theorem readable_float (x : Binary64) : Readable (.float x) := ⟨nofun, nofun⟩

theorem readable_str (s : String) : Readable (.str s) := ⟨nofun, nofun⟩

/-- Fewer entries can be read where all of them can. -/
theorem Readable.sublist {e : Dict Json} (h : Readable (.obj d)) (he : e.Sublist d) :
    Readable (.obj e) := by
  obtain ⟨hkeys, hentries⟩ := readable_obj_iff.mp h
  rw [readable_obj_iff]
  constructor
  · exact (he.map Prod.fst).nodup hkeys
  · intro u hu
    exact hentries u (he.subset hu)

theorem floatless_arr_iff : Floatless (.arr vs) ↔ ∀ v ∈ vs, v.Floatless := by
  constructor
  · intro h v hv x hx
    exact h x (.item hv hx)
  · intro h x hx
    cases hx with
    | item hv hx => exact h _ hv x hx

theorem floatless_obj_iff : Floatless (.obj d) ↔ ∀ e ∈ d, e.2.Floatless := by
  constructor
  · intro h e he x hx
    exact h x (.entry he hx)
  · intro h x hx
    cases hx with
    | entry he hx => exact h _ he x hx

end Parts

section Words

variable {cs : List Char} {ds : List Nat} {n : Nat}

theorem lt_of_asciiDigit? {c : Char} (h : Text.asciiDigit? c = some n) : n < 10 := by
  unfold Text.asciiDigit? at h
  split_ifs at h with hc
  obtain ⟨-, hnine⟩ := Bool.and_eq_true_iff.mp hc
  have hle : c ≤ '9' := by simpa using hnine
  have hlast : c.toNat ≤ 57 := UInt32.le_iff_toNat_le.mp hle
  have hfirst : '0'.toNat = 48 := rfl
  obtain rfl := Option.some.inj h
  omega

theorem lt_of_mem_digitRun (h : n ∈ (Binary64.digitRun cs).1) : n < 10 := by
  induction cs with
  | nil => cases h
  | cons c cs ih =>
    unfold Binary64.digitRun at h
    cases hc : Text.asciiDigit? c with
    | none =>
      rw [hc] at h
      cases h
    | some d =>
      rw [hc] at h
      rcases List.mem_cons.mp h with rfl | h
      · exact lt_of_asciiDigit? hc
      · exact ih h

theorem ofDigits_lt (h : ∀ d ∈ ds, d < 10) : Text.ofDigits 10 ds < 10 ^ ds.length := by
  -- the digit that is read last weighs least
  induction ds using List.reverseRec with
  | nil => decide
  | append_singleton ds d ih =>
    have hd : d < 10 := h d (by simp)
    have hds : Text.ofDigits 10 ds < 10 ^ ds.length :=
      ih fun e he => h e (List.mem_append_left _ he)
    have hlast : Text.ofDigits 10 (ds ++ [d]) = 10 * Text.ofDigits 10 ds + d := by
      unfold Text.ofDigits
      rw [List.foldl_append]
      rfl
    rw [hlast, List.length_append, List.length_singleton, Nat.pow_succ]
    omega

theorem length_toDigits_ofDigits (hds : ∀ d ∈ ds, d < 10) (hlength : ds.length ≤ Text.maxDigits) :
    (Nat.toDigits 10 (Text.ofDigits 10 ds)).length ≤ Text.maxDigits := by
  rw [Nat.length_toDigits_le_iff (by decide) (by decide)]
  exact Nat.lt_of_lt_of_le (ofDigits_lt hds) (Nat.pow_le_pow_right (by decide) hlength)

theorem wholePart?_eq_some (h : wholePart? ds = some n) :
    ds.length ≤ Text.maxDigits ∧ Text.ofDigits 10 ds = n := by
  unfold wholePart? at h
  split at h
  · cases h
  · cases h
  · split_ifs at h with hlength
    exact ⟨hlength, Option.some.inj h⟩

theorem readable_of_number? {negative : Bool} (h : number? negative cs = some v) :
    v.Readable := by
  unfold number? at h
  split at h
  · cases h
  · cases h
  · next ds _ _ hrun =>
    obtain ⟨_, hn, rfl⟩ := Option.map_eq_some_iff.mp h
    obtain ⟨n, hwhole, heq⟩ := Option.bind_eq_some_iff.mp hn
    obtain rfl := Option.some.inj heq
    have hds : ∀ d ∈ ds, d < 10 := by
      intro d hd
      have hmem : d ∈ (Binary64.digitRun cs).1 := by
        rw [hrun]
        exact hd
      exact lt_of_mem_digitRun hmem
    obtain ⟨hshort, rfl⟩ := wholePart?_eq_some hwhole
    have hlength := length_toDigits_ofDigits hds hshort
    rw [readable_int_iff]
    cases negative <;> simpa using hlength
  · split_ifs at h
    obtain ⟨x, -, rfl⟩ := Option.map_eq_some_iff.mp h
    exact readable_float x
  · obtain ⟨x, -, rfl⟩ := Option.map_eq_some_iff.mp h
    exact readable_float x

theorem readable_of_ofWord? (h : ofWord? cs = some v) : v.Readable := by
  unfold ofWord? at h
  split at h
  · split_ifs at h
    · obtain rfl := Option.some.inj h
      exact readable_float _
    · exact readable_of_number? h
  · split_ifs at h
    · obtain rfl := Option.some.inj h
      exact readable_null
    · obtain rfl := Option.some.inj h
      exact readable_bool _
    · obtain rfl := Option.some.inj h
      exact readable_bool _
    · obtain rfl := Option.some.inj h
      exact readable_float _
    · obtain rfl := Option.some.inj h
      exact readable_float _
    · exact readable_of_number? h

end Words

section Tokens

variable {c : Char} {mode next : Mode} {done ts : List Token}

def Token.Readable : Token → Prop
  | .word v => v.Readable
  | _ => True

theorem readable_of_mark? {t : Token} (h : mark? c = some t) : t.Readable := by
  unfold mark? at h
  split at h <;> first
    | (obtain rfl := Option.some.inj h; trivial)
    | cases h

theorem readable_of_start? (h : start? c = some (ts, next)) : ∀ t ∈ ts, t.Readable := by
  cases hmark : mark? c with
  | some t =>
    simp only [start?, hmark] at h
    split_ifs at h <;> obtain ⟨rfl, -⟩ := Prod.mk.inj (Option.some.inj h)
    · nofun
    · nofun
    · exact List.forall_mem_singleton.mpr (readable_of_mark? hmark)
  | none =>
    simp only [start?, hmark] at h
    split_ifs at h <;> obtain ⟨rfl, -⟩ := Prod.mk.inj (Option.some.inj h) <;> nofun

/-- Words alone stand for values that have to be readable. -/
theorem readable_of_step? (h : mode.step? c = some (ts, next)) : ∀ t ∈ ts, t.Readable := by
  cases mode with
  | between => exact readable_of_start? h
  | word before =>
    rw [Mode.step?] at h
    split_ifs at h
    · obtain ⟨rfl, -⟩ := Prod.mk.inj (Option.some.inj h)
      nofun
    · obtain ⟨v, hv, h⟩ := Option.bind_eq_some_iff.mp h
      obtain ⟨⟨us, m⟩, hstart, h⟩ := Option.bind_eq_some_iff.mp h
      obtain ⟨rfl, -⟩ := Prod.mk.inj (Option.some.inj h)
      exact List.forall_mem_cons.mpr ⟨readable_of_ofWord? hv, readable_of_start? hstart⟩
  | text d =>
    rw [Mode.step?] at h
    split_ifs at h
    · obtain ⟨rfl, -⟩ := Prod.mk.inj (Option.some.inj h)
      exact List.forall_mem_singleton.mpr trivial
    · obtain ⟨rfl, -⟩ := Prod.mk.inj (Option.some.inj h)
      nofun
    · obtain ⟨rfl, -⟩ := Prod.mk.inj (Option.some.inj h)
      nofun
  | escape d =>
    rw [Mode.step?] at h
    split_ifs at h
    · obtain ⟨rfl, -⟩ := Prod.mk.inj (Option.some.inj h)
      nofun
    · obtain ⟨_, -, h⟩ := Option.map_eq_some_iff.mp h
      obtain ⟨rfl, -⟩ := Prod.mk.inj h
      nofun
  | code d left value =>
    obtain ⟨_, -, h⟩ := Option.map_eq_some_iff.mp h
    obtain ⟨rfl, -⟩ := Prod.mk.inj h
    nofun

theorem readable_of_lexFrom {cs : List Char} (h : lexFrom mode done cs = some ts)
    (hdone : ∀ t ∈ done, t.Readable) : ∀ t ∈ ts, t.Readable := by
  induction cs generalizing mode done with
  | nil =>
    unfold lexFrom at h
    split at h
    · obtain rfl := Option.some.inj h
      exact fun t ht => hdone t (List.mem_reverse.mp ht)
    · obtain ⟨v, hv, rfl⟩ := Option.map_eq_some_iff.mp h
      intro t ht
      rcases List.mem_cons.mp (List.mem_reverse.mp ht) with rfl | ht
      · exact readable_of_ofWord? hv
      · exact hdone t ht
    · cases h
  | cons c cs ih =>
    unfold lexFrom at h
    split at h
    · cases h
    · next us m hstep =>
      refine ih h fun t ht => ?_
      rcases List.mem_append.mp ht with ht | ht
      · exact readable_of_step? hstep t (List.mem_reverse.mp ht)
      · exact hdone t ht

end Tokens

section Machine

def Frame.Readable : Frame → Prop
  | .items before => ∀ v ∈ before, v.Readable
  | .entries before | .entry before _ => Json.Readable (.obj before)

/-- Whether all that was read so far is readable. -/
structure Reading.Readable (r : Reading) : Prop where
  stack : ∀ f ∈ r.stack, f.Readable
  result : ∀ v ∈ r.result, v.Readable

variable {fs : List Frame} {r next : Reading} {t : Token}

theorem readable_put (hd : Json.Readable (.obj d)) (hv : v.Readable) :
    Json.Readable (.obj (d.put key v)) := by
  obtain ⟨hkeys, hentries⟩ := readable_obj_iff.mp hd
  refine readable_obj_iff.mpr ⟨Dict.nodup_keys_put hkeys, fun e he => ?_⟩
  rcases Dict.mem_put he with rfl | he
  · exact hv
  · exact hentries e he

theorem readable_complete (hfs : ∀ f ∈ fs, f.Readable) (hv : v.Readable)
    (h : Reading.complete v fs = some r) : r.Readable := by
  unfold Reading.complete at h
  split at h
  · obtain rfl := Option.some.inj h
    refine ⟨hfs, fun w hw => ?_⟩
    obtain rfl := Option.some.inj hw
    exact hv
  · obtain rfl := Option.some.inj h
    obtain ⟨hitems, hfs⟩ := List.forall_mem_cons.mp hfs
    exact ⟨List.forall_mem_cons.mpr ⟨List.forall_mem_cons.mpr ⟨hv, hitems⟩, hfs⟩, nofun⟩
  · obtain rfl := Option.some.inj h
    obtain ⟨hentry, hfs⟩ := List.forall_mem_cons.mp hfs
    exact ⟨List.forall_mem_cons.mpr ⟨readable_put hentry hv, hfs⟩, nofun⟩
  · cases h

theorem readable_begin (hfs : ∀ f ∈ fs, f.Readable) (ht : t.Readable)
    (h : Reading.begin fs t = some r) : r.Readable := by
  unfold Reading.begin at h
  split at h
  · obtain rfl := Option.some.inj h
    exact ⟨List.forall_mem_cons.mpr ⟨nofun, hfs⟩, nofun⟩
  · obtain rfl := Option.some.inj h
    exact ⟨List.forall_mem_cons.mpr ⟨readable_obj_iff.mpr ⟨List.nodup_nil, nofun⟩, hfs⟩, nofun⟩
  · exact readable_complete hfs (readable_str _) h
  · exact readable_complete hfs ht h
  · cases h

/-- What is put together from readable parts is readable. -/
theorem Reading.Readable.step (hr : r.Readable) (ht : t.Readable) (h : r.step t = some next) :
    next.Readable := by
  have harr {before : List Json} (hbefore : Frame.Readable (.items before)) :
      Json.Readable (.arr before.reverse) :=
    readable_arr_iff.mpr fun v hv => hbefore v (List.mem_reverse.mp hv)
  obtain ⟨place, stack, result⟩ := r
  have hstack : ∀ f ∈ stack, f.Readable := hr.stack
  unfold Reading.step at h
  dsimp only at h
  split at h
  · exact readable_begin hstack ht h
  · obtain ⟨hbefore, hfs⟩ := List.forall_mem_cons.mp hstack
    exact readable_complete hfs (harr hbefore) h
  · exact readable_begin hstack ht h
  · obtain ⟨hbefore, hfs⟩ := List.forall_mem_cons.mp hstack
    exact readable_complete hfs hbefore h
  · obtain rfl := Option.some.inj h
    obtain ⟨hbefore, hfs⟩ := List.forall_mem_cons.mp hstack
    exact ⟨List.forall_mem_cons.mpr ⟨hbefore, hfs⟩, nofun⟩
  · obtain rfl := Option.some.inj h
    obtain ⟨hbefore, hfs⟩ := List.forall_mem_cons.mp hstack
    exact ⟨List.forall_mem_cons.mpr ⟨hbefore, hfs⟩, nofun⟩
  · obtain rfl := Option.some.inj h
    exact ⟨hstack, nofun⟩
  · obtain rfl := Option.some.inj h
    exact ⟨hstack, nofun⟩
  · obtain ⟨hbefore, hfs⟩ := List.forall_mem_cons.mp hstack
    exact readable_complete hfs (harr hbefore) h
  · obtain rfl := Option.some.inj h
    exact ⟨hstack, nofun⟩
  · obtain ⟨hbefore, hfs⟩ := List.forall_mem_cons.mp hstack
    exact readable_complete hfs hbefore h
  · cases h

theorem Reading.Readable.foldlM {ts : List Token} (hr : r.Readable) (hts : ∀ t ∈ ts, t.Readable)
    (h : ts.foldlM Reading.step r = some next) : next.Readable := by
  induction ts generalizing r with
  | nil =>
    obtain rfl := Option.some.inj h
    exact hr
  | cons t ts ih =>
    obtain ⟨ht, hts⟩ := List.forall_mem_cons.mp hts
    rw [List.foldlM_cons] at h
    obtain ⟨r', hstep, h⟩ := Option.bind_eq_some_iff.mp h
    exact ih (hr.step ht hstep) hts h

end Machine

/-- Whatever is read from a document is readable. -/
theorem readable_of_read? {cs : List Char} (h : read? cs = some v) : v.Readable := by
  obtain ⟨ts, hlex, h⟩ := Option.bind_eq_some_iff.mp h
  obtain ⟨r, hfold, h⟩ := Option.bind_eq_some_iff.mp h
  have hr : Reading.Readable ⟨.value, [], none⟩ := ⟨nofun, nofun⟩
  have hend := hr.foldlM (readable_of_lexFrom hlex nofun) hfold
  split at h
  · exact hend.result v h
  · cases h

end ChatAudit.Json
