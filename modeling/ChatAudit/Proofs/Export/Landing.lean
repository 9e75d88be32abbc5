import ChatAudit.Proofs.Api.Outcome
import ChatAudit.Proofs.Export.Path
import Mathlib.Data.Fintype.EquivFin

/-! Where a saved export lands, and which names keep it in the directory that it is saved to. -/
namespace ChatAudit

/-- A directory that is there or can be made, with nothing in it where the path to a file comes
along. -/
def Disk.Ready (d : Disk) (directory file : Path) : Prop :=
  (∀ n ∈ directory.names, IsEntryName n) ∧
    ∃ r, Disk.walk (d.start directory) directory.names d = .ok r ∧
      ∀ pre, pre <+: file.names → (r.1.follow pre).Inside r.1 → r.2.at? (r.1.follow pre) = none

/-- The working directory of an empty disk has nothing in it. -/
theorem Disk.ready_here (working : Place) (file : Path) :
    (Disk.mk working []).Ready (.ofText ".") file := by
  have hhere : Path.ofText "." = ⟨false, []⟩ := by decide
  rw [hhere]
  refine ⟨by simp, (working, ⟨working, []⟩), rfl, fun pre _ hp => ?_⟩
  have hlen : ¬working.follow pre <:+ working := fun hs => hp.2 (hs.eq_of_length_le hp.1.length_le)
  simp [at?, hlen]

/-- Names that stay below a directory can be walked there if nothing is in the way, and touch only
the places that they lead to. -/
theorem Disk.walk_of_stays {d : Disk} {base : Place} {names : List String}
    (hd : d.at? base = some .directory)
    (hclear : ∀ pre, pre <+: names → (base.follow pre).Inside base →
      d.at? (base.follow pre) = none)
    (hs : Place.Stays [] names) :
    ∃ r, Disk.walk base names d = .ok r ∧ r.1 = Place.follow [] names ++ base ∧
      ∀ p, (∀ pre, pre <+: names → p ≠ Place.follow [] pre ++ base) → r.2.at? p = d.at? p := by
  have hway : ∀ pre, pre <+: names → base.follow pre = Place.follow [] pre ++ base :=
    fun pre hpre => Place.follow_append_base base (Place.stays_of_prefix hs hpre)
  have hfile : ∀ pre, pre <+: names → d.file? (base.follow pre) = none := by
    intro pre hpre
    by_cases hbase : base.follow pre = base
    · rw [hbase]
      exact file?_of_directory hd
    · refine file?_of_at?_none (hclear pre hpre ⟨?_, hbase⟩)
      rw [hway pre hpre]
      exact List.suffix_append _ _
  obtain ⟨r, hr⟩ := walk_of_file? hfile
  refine ⟨r, hr, (walk_spec hr).1.trans (hway names List.prefix_rfl), fun p hp => ?_⟩
  apply at?_walk_of_ne hr
  intro pre hpre
  rw [hway pre hpre]
  exact hp pre hpre

/-- The walk to a directory that is ready makes sure that it is there. -/
theorem Disk.Ready.walk {d : Disk} {directory file : Path} (h : d.Ready directory file) :
    ∃ r, Disk.walk (d.start directory) directory.names d = .ok r ∧ r.1 = d.placeOf directory ∧
      r.2.at? r.1 = some .directory ∧
      ∀ pre, pre <+: file.names → (r.1.follow pre).Inside r.1 →
        r.2.at? (r.1.follow pre) = none := by
  obtain ⟨-, r, hr, hclear⟩ := h
  have hplace : r.1 = d.placeOf directory := (Disk.walk_spec hr).1
  refine ⟨r, hr, hplace, ?_, hclear⟩
  rw [hplace]
  exact Disk.at?_walk_of_prefix hr (d.at?_start _) List.prefix_rfl

/-- The way to a file that fits ends in a place that is free for it. -/
theorem Path.Fits.walk_of_ready {d : Disk} {directory file : Path} {init : List String}
    {name : String} (hf : file.Fits) (hd : d.Ready directory file)
    (hinit : file.names = init ++ [name]) (hlast : name ≠ "..") :
    ∃ r, Disk.walk (d.start directory) (directory.names ++ init) d = .ok r ∧
      d.placeOf (directory.join file) = name :: r.1 ∧ r.2.at? (name :: r.1) = none ∧
      d.at? (name :: r.1) = none := by
  obtain ⟨r, hr, hbase, hthere, hclear⟩ := hd.walk
  -- from the directory, which is there by now, on to the file
  have hprefix : init <+: file.names := hinit ▸ List.prefix_append init [name]
  obtain ⟨r', hr', hend, hsame⟩ := Disk.walk_of_stays hthere
    (fun pre hpre => hclear pre (hpre.trans hprefix)) (Place.stays_of_prefix hf.stays hprefix)
  have hwalk : Disk.walk (d.start directory) (directory.names ++ init) d = .ok r' := by
    rw [Disk.walk_append, hr]
    exact hr'
  have hplace : d.placeOf (directory.join file) = r.1.follow file.names := by
    rw [Path.placeOf_join d hf.unrooted, hbase]
  have hname : r.1.follow file.names = name :: r'.1 := by
    have hinit' : r.1.follow init = Place.follow [] init ++ r.1 :=
      Place.follow_append_base r.1 (Place.stays_of_prefix hf.stays hprefix)
    rw [hinit, Place.follow_concat _ init hlast, hinit', hend]
  have hfree : r.2.at? (r.1.follow file.names) = none := by
    refine hclear file.names List.prefix_rfl ?_
    rw [← hplace, hbase]
    exact hf.inside d directory
  have huntouched : r'.2.at? (r.1.follow file.names) = none := by
    rw [hsame _ fun pre hpre => hf.follow_ne r.1 (by simpa [hinit] using hpre)]
    exact hfree
  refine ⟨r', hwalk, ?_⟩
  rw [← hname]
  exact ⟨hplace, huntouched, Disk.at?_none_of_walk hr hfree⟩

namespace File
variable {f : File} {directory : String} {d d' : Disk} {path : Path}

/-- The path that a file is saved to. -/
def target (f : File) (directory : String) : Path :=
  (Path.ofText directory).join (Path.ofText f.filename)

theorem entries_iff {names : List String} :
    (∀ n ∈ names, IsEntryName n) ↔
      (names.any fun n => n.toList.any (·.toNat == 0)) = false ∧
        (names.any fun n => maxNameLength < n.utf8ByteSize) = false := by
  have hzero : ∀ c : Char, c.toNat = 0 ↔ c = '\x00' := fun c => Char.toNat_inj (d := '\x00')
  simp only [IsEntryName, List.any_eq_false, beq_iff_eq, decide_eq_true_eq, Nat.not_lt,
    Bool.not_eq_true, hzero]
  constructor
  · intro h
    exact ⟨fun n hn c hc heq => (h n hn).1 (heq ▸ hc), fun n hn => (h n hn).2⟩
  · intro h n hn
    exact ⟨fun hm => h.1 n hn _ hm rfl, h.2 n hn⟩

/-- What a saving that succeeds has done. -/
theorem save_eq_ok_iff : f.save directory d = .ok (path, d') ↔
    path = f.target directory ∧ (∀ n ∈ path.names, IsEntryName n) ∧
      ∃ init name r, path.names = init ++ [name] ∧ name ≠ ".." ∧
        Disk.walk (d.start path) init d = .ok r ∧
        r.2.write (name :: r.1) f.content = .ok d' := by
  have hpath : (Path.ofText directory).join (Path.ofText f.filename) = f.target directory := rfl
  simp only [save, hpath, bind, Except.bind, throw, throwThe, MonadExceptOf.throw, pure,
    Except.pure]
  constructor
  · intro h
    split_ifs at h with hz hl
    split at h
    · cases h
    · next r hw =>
      split at h
      · cases h
      · cases h
      · next name hlast hn =>
        split at h
        · cases h
        · next d₁ hwrite =>
          obtain ⟨rfl, rfl⟩ := Prod.mk.inj (Except.ok.inj h)
          obtain ⟨init, hinit⟩ := List.getLast?_eq_some_iff.mp hn
          refine ⟨rfl, entries_iff.mpr ⟨by simpa using hz, by simpa using hl⟩,
            init, name, r, hinit, hlast, ?_, hwrite⟩
          rwa [hinit, List.dropLast_concat] at hw
  · rintro ⟨rfl, he, init, name, r, hn, hlast, hw, hwrite⟩
    obtain ⟨hz, hl⟩ := entries_iff.mp he
    have hlast? : (f.target directory).names.getLast? = some name := by rw [hn]; simp
    have hinit : (f.target directory).names.dropLast = init := by rw [hn]; simp
    simp only [hz, hl, hinit, hw, hlast?, hwrite]
    simp

/-- Whatever the path, saving makes one file where it leads and leaves the others as they are. -/
theorem file?_save (h : f.save directory d = .ok (path, d')) :
    d'.file? (d.placeOf path) = some f.content ∧
      ∀ q, q ≠ d.placeOf path → d'.file? q = d.file? q := by
  obtain ⟨-, -, init, name, r, hn, hlast, hw, hwrite⟩ := save_eq_ok_iff.mp h
  obtain ⟨hr, hkept⟩ := Disk.walk_spec hw
  have hplace : d.placeOf path = name :: r.1 := by
    rw [Disk.placeOf, hn, Place.follow_concat _ init hlast, hr]
  obtain ⟨hfile, hother⟩ := Disk.file?_write hwrite
  rw [hplace]
  exact ⟨hfile, fun q hq => (hother q hq).trans (hkept q)⟩

/-- No directory on the way can be in the place of the file. -/
theorem free_of_save (h : f.save directory d = .ok (path, d')) :
    ∀ pre, pre <+: path.names.dropLast → (d.start path).follow pre ≠ d.placeOf path := by
  obtain ⟨-, -, init, name, r, hn, hlast, hw, hwrite⟩ := save_eq_ok_iff.mp h
  intro pre hpre heq
  rw [hn, List.dropLast_concat] at hpre
  have hdirectory := Disk.at?_walk_of_prefix hw (d.at?_start path) hpre
  rw [heq, Disk.placeOf, hn, Place.follow_concat _ init hlast,
    ← (Disk.walk_spec hw).1] at hdirectory
  rw [Disk.write_directory _ hdirectory] at hwrite
  cases hwrite

/-- Saving makes one new file with the content, inside the directory, and no other file differs. -/
def Lands (f : File) (directory : String) (d : Disk) : Prop :=
  ∃ path d', f.save directory d = .ok (path, d') ∧
    (d.placeOf path).Inside (d.placeOf (.ofText directory)) ∧
    d.at? (d.placeOf path) = none ∧
    d'.file? (d.placeOf path) = some f.content ∧
    ∀ q, q ≠ d.placeOf path → d'.file? q = d.file? q

/-- On any disk, a file whose name fits is saved inside the directory or not at all. -/
theorem inside_of_save (hf : (Path.ofText f.filename).Fits)
    (h : f.save directory d = .ok (path, d')) :
    (d.placeOf path).Inside (d.placeOf (.ofText directory)) := by
  obtain ⟨rfl, -⟩ := save_eq_ok_iff.mp h
  exact hf.inside d _

theorem lands_of_fits (hf : (Path.ofText f.filename).Fits)
    (hd : d.Ready (.ofText directory) (.ofText f.filename)) : f.Lands directory d := by
  obtain ⟨name, hn, hlast⟩ := hf.last
  obtain ⟨init, hinit⟩ := List.getLast?_eq_some_iff.mp hn
  obtain ⟨r, hw, hplace, hfree, hnew⟩ := hf.walk_of_ready hd hinit hlast
  have hjoin : f.target directory = ⟨(Path.ofText directory).rooted,
      (Path.ofText directory).names ++ (Path.ofText f.filename).names⟩ :=
    Path.join_of_unrooted hf.unrooted
  have hentries : ∀ n ∈ (f.target directory).names, IsEntryName n := by
    rw [hjoin]
    intro n hn
    rcases List.mem_append.mp hn with hm | hm
    · exact hd.1 n hm
    · exact hf.entries n hm
  have hnames : (f.target directory).names = (Path.ofText directory).names ++ init ++ [name] := by
    rw [hjoin, hinit, List.append_assoc]
  have hstart : d.start (f.target directory) = d.start (.ofText directory) := by
    rw [hjoin]
    rfl
  have hsave := save_eq_ok_iff.mpr ⟨rfl, hentries, _, name, r, hnames, hlast, by rw [hstart, hw],
    Disk.write_of_at?_none f.content hfree⟩
  obtain ⟨hfile, hother⟩ := file?_save hsave
  exact ⟨_, _, hsave, hf.inside d _, hplace ▸ hnew, hfile, hother⟩

/-- A name that lands in every directory fits. An empty disk shows it, whose working directory has a
name that the path does not mention. -/
theorem fits_of_lands
    (h : ∀ (d : Disk) (directory : String),
      d.Ready (.ofText directory) (.ofText f.filename) → f.Lands directory d) :
    (Path.ofText f.filename).Fits := by
  obtain ⟨w, hw⟩ := Infinite.exists_notMem_finset (Path.ofText f.filename).names.toFinset
  replace hw : w ∉ (Path.ofText f.filename).names := fun hm => hw (List.mem_toFinset.mpr hm)
  have hhere : Path.ofText "." = ⟨false, []⟩ := by decide
  obtain ⟨path, d', hsave, hin, -, -, -⟩ := h _ _ (Disk.ready_here [w] _)
  have hfree := free_of_save hsave
  obtain ⟨rfl, he, init, name, r, hn, hlast, -, -⟩ := save_eq_ok_iff.mp hsave
  have hmem : w ∈ (Disk.mk [w] []).placeOf (f.target ".") := by
    rw [hhere] at hin
    exact hin.1.subset List.mem_cons_self
  have hunrooted : (Path.ofText f.filename).rooted = false :=
    Path.unrooted_of_mem_placeOf hw hmem
  have hjoin : f.target "." = ⟨false, (Path.ofText f.filename).names⟩ := by
    rw [target, Path.join_of_unrooted hunrooted, hhere]
    rfl
  rw [hjoin] at hn he hmem hfree
  have hs : Place.Stays [] (Path.ofText f.filename).names := Place.stays_of_mem_follow hw hmem
  refine ⟨hunrooted, he, ⟨name, List.getLast?_eq_some_iff.mpr ⟨init, hn⟩, hlast⟩, hs,
    fun pre hpre heq => hfree pre hpre ?_⟩
  have hpre' : Place.Stays [] pre :=
    Place.stays_of_prefix hs (hpre.trans (List.dropLast_prefix _))
  calc Place.follow [w] pre
      = Place.follow [] pre ++ [w] := Place.follow_append_base [w] hpre'
    _ = Place.follow [] (Path.ofText f.filename).names ++ [w] := by rw [heq]
    _ = Place.follow [w] (Path.ofText f.filename).names := (Place.follow_append_base [w] hs).symm

end File

namespace Api
variable {c : Client} {op : Operation} {r : Response} {a : op.Answer} {f : File}

/-- The exact reach of saving: the file of an export lands in every directory that is ready for it
exactly if the name that the response gives it fits. On any disk a name that fits is saved inside
the directory or not at all. -/
theorem Client.lands_iff_fits (ended : (c.perform op (.response r)).outcome = .ok a)
    (hf : op.file? a = some f) :
    f.filename = Disposition.filename (r.header? "content-disposition") op.defaultName ∧
      f.content = r.body ∧
      ((∀ (d : Disk) (directory : String),
          d.Ready (.ofText directory) (.ofText f.filename) → f.Lands directory d) ↔
        (Path.ofText f.filename).Fits) ∧
      ((Path.ofText f.filename).Fits → ∀ (d : Disk) (directory : String) (path : Path) (d' : Disk),
        f.save directory d = .ok (path, d') →
          (d.placeOf path).Inside (d.placeOf (.ofText directory)) ∧
          d'.file? (d.placeOf path) = some f.content ∧
          ∀ q, q ≠ d.placeOf path → d'.file? q = d.file? q) := by
  obtain ⟨url, ha⟩ := answer_of_outcome ended
  obtain ⟨hname, hcontent⟩ := Operation.file_of_answer ha hf
  refine ⟨hname, hcontent, ⟨File.fits_of_lands, fun hfits d directory => ?_⟩, ?_⟩
  · exact File.lands_of_fits hfits
  · intro hfits d directory path d' h
    exact ⟨File.inside_of_save hfits h, File.file?_save h⟩

/-- Without a name from the server the default one is safe. -/
theorem Operation.fits_defaultName (op : Operation) : (Path.ofText op.defaultName).Fits := by
  have hname : op.defaultName = "security_logs.txt.zip" ∨
      op.defaultName = "security_sessions.csv" := by
    cases op <;> simp [Operation.defaultName]
  rcases hname with h | h <;> rw [h] <;>
    exact Path.fits_of_plain (by decide) (by decide) (by decide) (by decide)
      ⟨by decide, by decide⟩

/-- A response to an export that names the file. -/
def namedExport (name : String) : Response :=
  ⟨200, [("Content-Disposition", "attachment; filename=\"" ++ name ++ "\"")], [0x69, 0x64]⟩

theorem gateway_export_lands : ∃ f,
    (gateway.perform (.exportSessions .nothing) (.response (namedExport "a.csv"))).outcome = .ok f ∧
      f.Lands "." ⟨["home"], []⟩ := by
  have ended : (gateway.perform (.exportSessions .nothing)
      (.response (namedExport "a.csv"))).outcome =
        .ok ⟨"a.csv", "application/octet-stream", [0x69, 0x64], false⟩ := rfl
  have hfits : (Path.ofText "a.csv").Fits :=
    Path.fits_of_plain (by decide) (by decide) (by decide) (by decide)
      ⟨by decide, by decide⟩
  obtain ⟨-, -, hlands, -⟩ := Client.lands_iff_fits ended rfl
  exact ⟨_, ended, hlands.mpr hfits _ _ (Disk.ready_here ["home"] _)⟩

/-- A name that steps back is saved beside the directory. -/
theorem gateway_export_escapes : ∃ f,
    (gateway.perform (.exportSessions .nothing)
      (.response (namedExport "../a.csv"))).outcome = .ok f ∧
      Disk.Ready ⟨["exports", "home"], []⟩ (.ofText ".") (.ofText f.filename) ∧
      (∃ path d', f.save "." ⟨["exports", "home"], []⟩ = .ok (path, d') ∧
        d'.file? ["a.csv", "home"] = some f.content) ∧
      ¬f.Lands "." ⟨["exports", "home"], []⟩ := by
  have hsave : File.save ⟨"../a.csv", "application/octet-stream", [0x69, 0x64], false⟩ "."
      ⟨["exports", "home"], []⟩ = .ok (⟨false, ["..", "a.csv"]⟩,
        ⟨["exports", "home"], [(["a.csv", "home"], .file [0x69, 0x64])]⟩) := rfl
  refine ⟨_, rfl, Disk.ready_here _ _, ⟨_, _, hsave, rfl⟩, ?_⟩
  rintro ⟨path, d', h, hin, -⟩
  obtain ⟨rfl, -⟩ := Prod.mk.inj (Except.ok.inj (hsave.symm.trans h))
  exact absurd hin.1 (by decide)

end Api
end ChatAudit
