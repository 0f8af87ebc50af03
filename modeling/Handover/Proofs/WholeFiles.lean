import Handover.Proofs.Emission

/-!
# Files are written whole or not at all

A run over any tree of files succeeds, or fails with each of its files written or as before. Making
the directory makes others on the way to it and nothing else, also when it gets only part of the way
(`makesWay_makeDirectories`). One file is written, or cannot be begun and nothing has happened, or
cannot be given its name and the name under which it was begun is free again
(`on_writeWhole_cases`). As no file stands in the way of another, this adds up over all of them
(`on_writeAll_cases`), and what a run leaves is told place by place (`EndsWhole`).

A file that is not written need not be as before when the way to the directory leads through its
name: then the directory made there is what stands in its way.
-/

namespace Handover

open Emission

/-! ## The way to a directory -/

/-- The paths of the directories that a path lies in, and the path itself. -/
inductive Path.OnWay : String → String → Prop
  | here (path : String) : OnWay path path
  | above {path parent way : String} (h : Path.parent? path = some parent)
    (hway : OnWay parent way) : OnWay path way

namespace FileTree

/-- What stands at a place is as before, except for a directory that was made on the way to
another. -/
def KeptOrMade (t t' : FileTree) (dir : String) (p : Place) : Prop :=
  t'.entry? p = t.entry? p
    ∨ t.entry? p = none ∧ t'.entry? p = some .directory
      ∧ ∃ way, Path.OnWay dir way ∧ t'.locate way = .ok p

variable {t t' t'' : FileTree} {path : String} {p : Place}

/-- What is done to files elsewhere leaves it so. -/
theorem KeptOrMade.of_sameDirectories {dir : String} (h : t.KeptOrMade t' dir p)
    (hsame : t'.SameDirectories t'') (heq : t''.entry? p = t'.entry? p) :
    t.KeptOrMade t'' dir p := by
  rcases h with hkept | ⟨hnone, hdir, way, hway, hplace⟩
  · exact .inl (heq.trans hkept)
  · exact .inr ⟨hnone, heq.trans hdir, way, hway, locate_of_directories hsame.workingDirectory
      (fun p => (hsame.directory p).mpr) hplace⟩

/-- A tree in which directories have been made on the way to a directory. -/
structure MakesWay (t t' : FileTree) (path : String) : Prop where
  workingDirectory : t'.workingDirectory = t.workingDirectory
  kept : ∀ p, t.KeptOrMade t' path p

namespace MakesWay

theorem refl (t : FileTree) (path : String) : t.MakesWay t path := ⟨rfl, fun _ => .inl rfl⟩

theorem directory (h : t.MakesWay t' path) (hp : t.entry? p = some .directory) :
    t'.entry? p = some .directory := by
  rcases h.kept p with heq | ⟨-, hdir, -⟩
  · rw [heq, hp]
  · exact hdir

theorem locate (h : t.MakesWay t' path) {way : String} (hp : t.locate way = .ok p) :
    t'.locate way = .ok p :=
  locate_of_directories h.workingDirectory (fun _ => h.directory) hp

theorem trans (h : t.MakesWay t' path) (h' : t'.MakesWay t'' path) : t.MakesWay t'' path where
  workingDirectory := h'.workingDirectory.trans h.workingDirectory
  kept p := by
    rcases h'.kept p with heq' | ⟨hnone', hdir', hway'⟩
    · rcases h.kept p with heq | ⟨hnone, hdir, way, hway, hplace⟩
      · exact .inl (heq'.trans heq)
      · exact .inr ⟨hnone, heq'.trans hdir, way, hway, h'.locate hplace⟩
    · rcases h.kept p with heq | ⟨-, hdir, -⟩
      · exact .inr ⟨heq ▸ hnone', hdir', hway'⟩
      · cases hnone'.symm.trans hdir

/-- The way to the directory that a path lies in is part of the way to the path. -/
theorem of_parent {parent : String} (hparent : Path.parent? path = some parent)
    (h : t.MakesWay t' parent) : t.MakesWay t' path where
  workingDirectory := h.workingDirectory
  kept p := (h.kept p).imp_right fun ⟨hnone, hdir, way, hway, hplace⟩ =>
    ⟨hnone, hdir, way, .above hparent hway, hplace⟩

end MakesWay

theorem makesWay_of_makeDirectory (h : t.makeDirectory path = .ok t') : t.MakesWay t' path := by
  obtain ⟨place, hplace, hentry, rfl⟩ := makeDirectory_eq_ok.mp h
  have hne := ne_nil_of_entry?_eq_none hentry
  refine ⟨rfl, fun p => ?_⟩
  by_cases hp : p = place
  · subst hp
    exact .inr ⟨hentry, by rw [entry?_put t hne, if_pos rfl], path, .here path,
      locate_put_directory hplace hne⟩
  · exact .inl (by rw [entry?_put t hne, if_neg hp])

/-- An operation that fails leaves the tree as it is. -/
theorem update_eq_error {f : FileTree → Except FileFault FileTree} {fault : FileFault} :
    update f t = (.error fault, t') ↔ f t = .error fault ∧ t' = t := by
  rw [update]
  rcases f t with fault' | next
  · constructor
    · intro h
      cases h
      exact ⟨rfl, rfl⟩
    · rintro ⟨h, rfl⟩
      cases h
      rfl
  · constructor
    · intro h
      cases h
    · rintro ⟨h, -⟩
      cases h

theorem run_makeDirectory_eq_error {fault : FileFault} :
    StateT.run (FileSystem.makeDirectory path : StateM FileTree _) t = (.error fault, t') ↔
      t.makeDirectory path = .error fault ∧ t' = t :=
  update_eq_error (f := (·.makeDirectory path))

theorem run_writeText_eq_error {text : String} {fault : FileFault} :
    StateT.run (FileSystem.writeText path text : StateM FileTree _) t = (.error fault, t') ↔
      t.writeText path text = .error fault ∧ t' = t :=
  update_eq_error (f := (·.writeText path text))

theorem run_rename_eq_error {source : String} {fault : FileFault} :
    StateT.run (FileSystem.rename source path : StateM FileTree _) t = (.error fault, t') ↔
      t.rename source path = .error fault ∧ t' = t :=
  update_eq_error (f := (·.rename source path))

/-- Making one directory makes way also when it fails. -/
theorem makesWay_makeDirectory {result : Except FileFault Unit}
    (h : StateT.run (FileSystem.makeDirectory path : StateM FileTree _) t = (result, t')) :
    t.MakesWay t' path := by
  rcases result with fault | ⟨⟩
  · obtain ⟨-, rfl⟩ := run_makeDirectory_eq_error.mp h
    exact .refl t' path
  · exact makesWay_of_makeDirectory (run_makeDirectory_eq_ok.mp h)

/-- Looking whether a directory is there leaves the tree as it is. -/
theorem snd_run_isDirectory (fault : FileFault) :
    (StateT.run (do
      if ← (FileSystem.isDirectory path : StateM FileTree _) then
        return (.ok () : Except FileFault Unit)
      else return .error fault) t).2 = t := by
  show ((if t.isDirectory path then pure (.ok ()) else pure (.error fault)
    : StateM FileTree (Except FileFault Unit)) t).2 = t
  split <;> rfl

theorem makesWay_ensureDirectory :
    t.MakesWay (StateT.run (FileSystem.ensureDirectory path : StateM FileTree _) t).2 path := by
  rw [FileSystem.ensureDirectory]
  rcases hmake : StateT.run (FileSystem.makeDirectory path : StateM FileTree _) t
    with ⟨fault | done, t₁⟩
  · rw [run_bind_of_run hmake]
    dsimp only
    rw [snd_run_isDirectory]
    exact makesWay_makeDirectory hmake
  · rw [run_bind_of_run hmake]
    exact makesWay_makeDirectory hmake

/-- However far it gets, making a whole way makes directories on it and nothing else. -/
theorem makesWay_makeDirectories {depth : Nat} :
    t.MakesWay
      (StateT.run (FileSystem.makeDirectories depth path : StateM FileTree _) t).2 path := by
  induction depth generalizing t path with
  | zero => exact .refl t path
  | succ depth ih =>
    rw [FileSystem.makeDirectories]
    split
    · exact .refl t path
    rcases hmake : StateT.run (FileSystem.makeDirectory path : StateM FileTree _) t
      with ⟨fault | done, t₁⟩
    · rw [run_bind_of_run hmake]
      have hway := makesWay_makeDirectory hmake
      cases fault
      case notFound =>
        dsimp only
        cases hparent : Path.parent? path with
        | none => exact hway
        | some parent =>
          dsimp only
          have hparents : t₁.MakesWay (StateT.run
              (FileSystem.makeDirectories depth parent : StateM FileTree _) t₁).2 path :=
            ih.of_parent hparent
          rcases hmade : StateT.run (FileSystem.makeDirectories depth parent : StateM FileTree _) t₁
            with ⟨fault | done, t₂⟩
          · rw [run_bind_of_run hmade]
            rw [hmade] at hparents
            exact hway.trans hparents
          · rw [run_bind_of_run hmade]
            rw [hmade] at hparents
            exact (hway.trans hparents).trans makesWay_ensureDirectory
      all_goals
        dsimp only
        rw [snd_run_isDirectory]
        exact hway
    · rw [run_bind_of_run hmake]
      exact makesWay_makeDirectory hmake

end FileTree

/-! ## One file -/

namespace FileTree

theorem erase_put (t : FileTree) (place : Place) (e : FileEntry) :
    (t.put place e).erase place = t.erase place := by
  have hentries : (t.entries.insert place e).erase place = t.entries.erase place := by
    refine KeyMap.ext_get? fun p => ?_
    rw [KeyMap.get?_erase, KeyMap.get?_erase]
    split
    · rfl
    · rename_i hp
      rw [KeyMap.get?_insert_of_ne hp]
  exact congrArg (fun entries => { t with entries }) hentries

theorem sameDirectories_erase {t : FileTree} {place : Place} (hne : place ≠ [])
    (hfree : t.entry? place ≠ some .directory) : t.SameDirectories (t.erase place) where
  workingDirectory := rfl
  directory p := by
    rw [entry?_erase t hne]
    split
    · rename_i hp
      rw [hp]
      simp [hfree]
    · rfl

/-- A file that has been put at a place is taken away from there. -/
theorem remove_put_file {t : FileTree} {path text : String} {place : Place}
    (hplace : locate (t.put place (.file text)) path = .ok place) (hne : place ≠ []) :
    remove (t.put place (.file text)) path = t.erase place := by
  rw [remove, hplace]
  dsimp only
  rw [if_neg (by simp [entry?_put t hne]), erase_put]

end FileTree

namespace Emission

open FileTree

variable {α β : Type} {t t' : FileTree} {q : Place} {dir name text : String}

theorem on_bind_of_ok {program : ExceptT Failure (StateM FileTree) α}
    {rest : α → ExceptT Failure (StateM FileTree) β} {a : α} (h : on program t = (.ok a, t')) :
    on (program >>= rest) t = on (rest a) t' := by
  rw [on, ExceptT.run_bind, StateT.run_bind]
  rw [on] at h
  rw [h]
  rfl

theorem on_bind_of_error {program : ExceptT Failure (StateM FileTree) α}
    {rest : α → ExceptT Failure (StateM FileTree) β} {failure : Failure}
    (h : on program t = (.error failure, t')) : on (program >>= rest) t = (.error failure, t') := by
  rw [on, ExceptT.run_bind, StateT.run_bind]
  rw [on] at h
  rw [h]
  rfl

theorem on_naming_of_error {path : String} {operation : StateM FileTree (Except FileFault α)}
    {fault : FileFault} (h : operation.run t = (.error fault, t')) :
    on (FileSystem.naming path operation) t = (.error (.file path fault), t') := by
  rw [FileSystem.naming, on_lift_bind, h]
  rfl

theorem on_writeWhole_of_unwritten {path : String} {fault : FileFault}
    (h : t.writeText (temporary path) text = .error fault) :
    on (writeWhole path text) t = (.error (.file (temporary path) fault), t) := by
  rw [writeWhole]
  exact on_bind_of_error (on_naming_of_error (run_writeText_eq_error.mpr ⟨h, rfl⟩))

theorem on_writeWhole_of_unnamed {path : String} {fault : FileFault}
    (hwrite : t.writeText (temporary path) text = .ok t')
    (hrename : t'.rename (temporary path) path = .error fault) :
    on (writeWhole path text) t = (.error (.file path fault), t'.remove (temporary path)) := by
  have hwritten : on (FileSystem.naming (temporary path)
      (FileSystem.writeText (temporary path) text)) t = (.ok (), t') :=
    on_naming_eq_ok.mpr (run_writeText_eq_ok.mpr hwrite)
  have hrun : StateT.run (FileSystem.rename (temporary path) path : StateM FileTree _) t'
      = (.error fault, t') := run_rename_eq_error.mpr ⟨hrename, rfl⟩
  rw [writeWhole, on_bind_of_ok hwritten, on_lift_bind, hrun]
  rfl

/-- Writing one file in a directory that is there succeeds, fails without an effect, or fails once
the name under which the file was written first is free again. -/
theorem on_writeWhole_cases (hname : Path.IsPlain name)
    (hq : t.directoryOf? (Path.lead dir) = some q) (text : String) :
    t.Clear q name
        ∧ on (writeWhole (Path.join dir name) text) t = (.ok (), t.withFile q name text)
      ∨ ∃ fault,
        on (writeWhole (Path.join dir name) text) t
            = (.error (.file (temporary (Path.join dir name)) fault), t)
          ∨ t.entry? (q ++ [earlyName name]) ≠ some .directory
            ∧ on (writeWhole (Path.join dir name) text) t
              = (.error (.file (Path.join dir name) fault), t.erase (q ++ [earlyName name])) := by
  have hearly : wantsDirectory (temporary (Path.join dir name)) = false := by
    rw [temporary_join hname, wantsDirectory_join (isPlain_earlyName hname)]
  rcases hwrite : t.writeText (temporary (Path.join dir name)) text with fault | t₁
  · exact .inr ⟨fault, .inl (on_writeWhole_of_unwritten hwrite)⟩
  rcases hrename : t₁.rename (temporary (Path.join dir name)) (Path.join dir name)
    with fault | t₂
  · have hfailed := on_writeWhole_of_unnamed hwrite hrename
    obtain ⟨place, hplace, hfree, rfl⟩ := (writeText_eq_ok hearly).mp hwrite
    obtain ⟨q', hq', hshort, rfl⟩ := (locate_temporary hname).mp hplace
    obtain rfl := Option.some.inj (hq.symm.trans hq')
    have hne : q ++ [earlyName name] ≠ [] := List.concat_ne_nil _ _
    have hsame := sameDirectories_put_file hne hfree text
    rw [remove_put_file ((locate_temporary hname).mpr
      ⟨q, (hsame.directoryOf?_eq _).trans hq, hshort, rfl⟩) hne] at hfailed
    exact .inr ⟨fault, .inr ⟨hfree, hfailed⟩⟩
  · have hdone := on_writeWhole_iff.mpr ⟨t₁, hwrite, hrename⟩
    obtain ⟨q', hq', hclear, rfl⟩ := (on_writeWhole_eq_ok hname).mp hdone
    obtain rfl := Option.some.inj (hq.symm.trans hq')
    exact .inl ⟨hclear, hdone⟩

/-! ## All files -/

/-- Files are written one after the other until one of them fails: those in front of it are written
then, and those behind it have not been begun. -/
theorem on_writeAll_cases {files : List (String × String)}
    (hq : t.directoryOf? (Path.lead dir) = some q) (hplain : ∀ f ∈ files, Path.IsPlain f.1) :
    (∀ f ∈ files, t.Clear q f.1)
        ∧ on (writeAll dir files) t
          = (.ok (files.map fun f => Path.join dir f.1), t.withFiles q files)
      ∨ ∃ before f after fault, files = before ++ f :: after ∧ (∀ g ∈ before, t.Clear q g.1)
        ∧ (on (writeAll dir files) t
              = (.error (.file (temporary (Path.join dir f.1)) fault), t.withFiles q before)
          ∨ entry? (t.withFiles q before) (q ++ [earlyName f.1]) ≠ some .directory
            ∧ on (writeAll dir files) t
              = (.error (.file (Path.join dir f.1) fault),
                (t.withFiles q before).erase (q ++ [earlyName f.1]))) := by
  induction files generalizing t with
  | nil => exact .inl ⟨List.forall_mem_nil _, rfl⟩
  | cons f files ih =>
    obtain ⟨hf, hplain⟩ := List.forall_mem_cons.mp hplain
    rw [writeAll]
    rcases on_writeWhole_cases hf hq f.2 with
      ⟨hclear, hwrite⟩ | ⟨fault, hfailed | ⟨hfree, hfailed⟩⟩
    · rw [on_bind_of_ok hwrite]
      have hsame : t.SameDirectories (t.withFile q f.1 f.2) := hclear.sameDirectories
      rcases ih ((hsame.directoryOf?_eq _).trans hq) hplain with
        ⟨hclears, hrest⟩ | ⟨before, g, after, fault, rfl, hclears, hrest⟩
      · refine .inl ⟨List.forall_mem_cons.mpr
          ⟨hclear, fun g hg => hsame.clear.mp (hclears g hg)⟩, ?_⟩
        rw [on_bind_of_ok hrest]
        rfl
      · refine .inr ⟨f :: before, g, after, fault, rfl,
          List.forall_mem_cons.mpr ⟨hclear, fun g hg => hsame.clear.mp (hclears g hg)⟩, ?_⟩
        exact hrest.imp on_bind_of_error fun h => ⟨h.1, on_bind_of_error h.2⟩
    · exact .inr ⟨[], f, files, fault, rfl, List.forall_mem_nil _, .inl (on_bind_of_error hfailed)⟩
    · exact .inr ⟨[], f, files, fault, rfl, List.forall_mem_nil _,
        .inr ⟨hfree, on_bind_of_error hfailed⟩⟩

/-! ## What a run leaves -/

/-- Names under which files are written side by side: none is one under which another is written
first. -/
structure Separate (names : List String) : Prop where
  plain : ∀ name ∈ names, Path.IsPlain name
  distinct : names.Nodup
  ne_earlyName : ∀ name ∈ names, ∀ other ∈ names, name ≠ earlyName other

/-- What a run leaves of a tree: some files with their texts in the place of its directory, none
under the names under which it has begun files, and all else as before. -/
structure Leaves (t t' : FileTree) (dir : String) (q : Place) (written : List (String × String))
    (begun : List String) : Prop where
  found : t'.directoryOf? (Path.lead dir) = some q
  complete : ∀ f ∈ written, t'.locate (Path.join dir f.1) = .ok (q ++ [f.1])
    ∧ t'.entry? (q ++ [f.1]) = some (.file f.2)
  free : ∀ name ∈ begun, t'.entry? (q ++ [earlyName name]) = none
  kept : ∀ p, (∀ f ∈ written, p ≠ q ++ [f.1]) → (∀ name ∈ begun, p ≠ q ++ [earlyName name]) →
    t.KeptOrMade t' dir p

theorem Separate.sublist {names names' : List String} (h : Separate names)
    (hsub : names'.Sublist names) : Separate names' where
  plain name hname := h.plain name (hsub.subset hname)
  distinct := h.distinct.sublist hsub
  ne_earlyName name hname other hother :=
    h.ne_earlyName name (hsub.subset hname) other (hsub.subset hother)

variable {made : FileTree} {files : List ManifestFile} {written rendered : List (String × String)}

/-- Files in the place of a directory for which way has been made. -/
theorem leaves_withFiles (hway : t.MakesWay made dir)
    (hq : made.directoryOf? (Path.lead dir) = some q) (hnames : Separate (written.map (·.1)))
    (hclear : ∀ f ∈ written, made.Clear q f.1) :
    Leaves t (made.withFiles q written) dir q written (written.map (·.1)) := by
  have hsame := sameDirectories_withFiles hclear
  have hq' := (hsame.directoryOf?_eq (Path.lead dir)).trans hq
  have hearly : ∀ f ∈ written, ∀ g ∈ written, f.1 ≠ earlyName g.1 := fun f hf g hg =>
    hnames.ne_earlyName f.1 (List.mem_map_of_mem hf) g.1 (List.mem_map_of_mem hg)
  refine ⟨hq', fun f hf => ⟨?_, entry?_withFiles hnames.distinct hearly hf⟩, ?_, ?_⟩
  · have hshort := Nat.le_trans (utf8ByteSize_le_earlyName f.1) (hclear f hf).short
    exact (locate_join (hnames.plain f.1 (List.mem_map_of_mem hf))).mpr ⟨q, hq', hshort, rfl⟩
  · intro name hname
    obtain ⟨f, hf, rfl⟩ := List.mem_map.mp hname
    rw [entry?_withFiles_of_no_name fun g hg heq => ?_, if_pos ⟨f, hf, rfl⟩]
    exact hearly g hg f hf (concat_inj.mp heq).symm
  · intro p hfinal hbegun
    refine (hway.kept p).of_sameDirectories hsame ?_
    rw [entry?_withFiles_of_no_name hfinal, if_neg]
    rintro ⟨f, hf, rfl⟩
    exact hbegun f.1 (List.mem_map_of_mem hf) rfl

/-- When a file is begun and not named, the name under which it was begun is free. -/
theorem Leaves.erase {begun : List String} (h : Leaves t t' dir q written begun)
    (hfree : t'.entry? (q ++ [earlyName name]) ≠ some .directory)
    (hnames : ∀ f ∈ written, f.1 ≠ earlyName name) :
    Leaves t (t'.erase (q ++ [earlyName name])) dir q written (begun ++ [name]) := by
  have hne : q ++ [earlyName name] ≠ [] := List.concat_ne_nil _ _
  have hsame := sameDirectories_erase hne hfree
  refine ⟨(hsame.directoryOf?_eq _).trans h.found, fun f hf => ?_, fun name' hname' => ?_, ?_⟩
  · obtain ⟨hplace, hentry⟩ := h.complete f hf
    refine ⟨locate_of_directories hsame.workingDirectory (fun p => (hsame.directory p).mpr) hplace,
      ?_⟩
    rw [entry?_erase t' hne, if_neg (mt concat_inj.mp (hnames f hf)), hentry]
  · rw [entry?_erase t' hne]
    split
    · rfl
    · rename_i hp
      rcases List.mem_append.mp hname' with hmem | hmem
      · exact h.free name' hmem
      · exact absurd (List.mem_singleton.mp hmem ▸ rfl) hp
  · intro p hfinal hbegun
    have hp : p ≠ q ++ [earlyName name] := hbegun name (List.mem_append_right _ (by simp))
    refine (h.kept p hfinal fun n hn => hbegun n (List.mem_append_left _ hn)).of_sameDirectories
      hsame ?_
    rw [entry?_erase t' hne, if_neg hp]

/-- A file that is neither written nor begun under its name is as before. -/
theorem Leaves.kept_name {begun : List String} (h : Leaves t t' dir q written begun)
    (hnew : name ∉ written.map (·.1)) (hbegun : ∀ other ∈ begun, name ≠ earlyName other) :
    t.KeptOrMade t' dir (q ++ [name]) := by
  refine h.kept _ (fun f hf heq => hnew ?_) fun other hother heq => hbegun other hother ?_
  · exact List.mem_map.mpr ⟨f, hf, (concat_inj.mp heq).symm⟩
  · exact concat_inj.mp heq

/-- A run that renders its files makes the directory and writes them. -/
theorem on_emit_of_rendered (h : files.mapM renderNamed = .ok rendered) :
    on (emit dir files) t = on (do
      FileSystem.naming dir (FileSystem.makeTree dir)
      writeAll dir rendered) t := by
  have hlift : on (emit.liftExcept (files.mapM renderNamed)) t = (.ok rendered, t) := by
    rw [h]
    rfl
  rw [emit, on_bind_of_ok hlift]

/-! ## How a run ends -/

/-- The ways in which a run can end. -/
inductive EndsWhole (t : FileTree) (dir : String) (files : List ManifestFile) : Prop
  /-- A file cannot be rendered, and nothing is touched. -/
  | unrendered {failure : Failure} (hfailed : files.mapM renderNamed = .error failure)
      (hrun : on (emit dir files) t = (.error failure, t))
  /-- All files are there under their names. -/
  | written {rendered : List (String × String)} {t' : FileTree} {q : Place}
      (hrendered : files.mapM renderNamed = .ok rendered)
      (hrun : on (emit dir files) t = (.ok (rendered.map fun f => Path.join dir f.1), t'))
      (hleft : Leaves t t' dir q rendered (rendered.map (·.1)))
  /-- The directory cannot be made. -/
  | noDirectory {fault : FileFault} {t' : FileTree}
      (hrun : on (emit dir files) t = (.error (.file dir fault), t'))
      (hkept : ∀ p, t.KeptOrMade t' dir p)
  /-- A file cannot be begun: those in front of it are written, it and those behind it are not. -/
  | notBegun {before after : List (String × String)} {f : String × String} {fault : FileFault}
      {t' : FileTree} {q : Place} (hrendered : files.mapM renderNamed = .ok (before ++ f :: after))
      (hrun : on (emit dir files) t
        = (.error (.file (temporary (Path.join dir f.1)) fault), t'))
      (hleft : Leaves t t' dir q before (before.map (·.1)))
      (hkept : ∀ g ∈ f :: after, t.KeptOrMade t' dir (q ++ [g.1]))
  /-- A file that has been begun cannot be given its name. -/
  | notNamed {before after : List (String × String)} {f : String × String} {fault : FileFault}
      {t' : FileTree} {q : Place} (hrendered : files.mapM renderNamed = .ok (before ++ f :: after))
      (hrun : on (emit dir files) t = (.error (.file (Path.join dir f.1) fault), t'))
      (hleft : Leaves t t' dir q before (before.map (·.1) ++ [f.1]))
      (hkept : ∀ g ∈ f :: after, t.KeptOrMade t' dir (q ++ [g.1]))

/-- A run writes all of its files, or fails and leaves each of them written or as before. -/
theorem emit_whole (t : FileTree) (dir : String) (files : List ManifestFile)
    (hnames : Separate (files.map (·.name))) : EndsWhole t dir files := by
  rcases hrendered : files.mapM renderNamed with failure | rendered
  · refine .unrendered hrendered ?_
    have hlift : on (emit.liftExcept (files.mapM renderNamed)) t = (.error failure, t) := by
      rw [hrendered]
      rfl
    rw [emit]
    exact on_bind_of_error hlift
  rw [← names_of_rendered hrendered] at hnames
  have hemit : on (emit dir files) t = _ := on_emit_of_rendered hrendered
  have hway : t.MakesWay (StateT.run (FileSystem.makeTree dir : StateM FileTree _) t).2 dir :=
    makesWay_makeDirectories
  rcases hmade : StateT.run (FileSystem.makeTree dir : StateM FileTree _) t
    with ⟨fault | ⟨⟩, made⟩
  · rw [on_bind_of_error (on_naming_of_error hmade)] at hemit
    rw [hmade] at hway
    exact .noDirectory hemit hway.kept
  rw [on_bind_of_ok (on_naming_eq_ok.mpr hmade)] at hemit
  rw [hmade] at hway
  obtain ⟨q, hq⟩ := exists_directoryOf?_of_makeTree hmade
  have hplain : ∀ f ∈ rendered, Path.IsPlain f.1 := fun f hf =>
    hnames.plain f.1 (List.mem_map_of_mem hf)
  rcases on_writeAll_cases hq hplain with
    ⟨hclear, hrun⟩ | ⟨before, f, after, fault, rfl, hclear, hrun⟩
  · exact .written hrendered (hemit.trans hrun) (leaves_withFiles hway hq hnames hclear)
  -- the names from the one that failed on are new, and no file was begun under them
  have hleft := leaves_withFiles hway hq
    (hnames.sublist ((List.sublist_append_left before (f :: after)).map _)) hclear
  have hnew : ∀ g ∈ f :: after, g.1 ∉ before.map (·.1) := by
    have hdistinct := hnames.distinct
    rw [List.map_append] at hdistinct
    exact fun g hg hmem =>
      (List.nodup_append.mp hdistinct).2.2 g.1 hmem g.1 (List.mem_map_of_mem hg) rfl
  have hearly : ∀ g ∈ f :: after, ∀ other ∈ before.map (·.1) ++ [f.1], g.1 ≠ earlyName other := by
    intro g hg other hother
    refine hnames.ne_earlyName g.1 ?_ other ?_
    · exact List.mem_map_of_mem (List.mem_append_right before hg)
    · rw [List.append_cons, List.map_append, List.map_append]
      exact List.mem_append_left _ hother
  rcases hrun with hrun | ⟨hfree, hrun⟩
  · exact .notBegun hrendered (hemit.trans hrun) hleft fun g hg => hleft.kept_name (hnew g hg)
      fun other hother => hearly g hg other (List.mem_append_left _ hother)
  · have hleft' := hleft.erase hfree fun g hg => hnames.ne_earlyName g.1
      (List.mem_map_of_mem (List.mem_append_left _ hg)) f.1 (by simp)
    exact .notNamed hrendered (hemit.trans hrun) hleft' fun g hg =>
      hleft'.kept_name (hnew g hg) (hearly g hg)

/-- A tree with a directory where the second of three files is to be written. -/
def blockedTree : FileTree where
  entries := .ofList [(["out"], .directory), (["out", "a"], .file "old"),
    (["out", "b"], .directory), (["out", "c"], .file "old")]

def threeFiles : List ManifestFile :=
  [⟨"a", [.text "new"]⟩, ⟨"b", [.text "new"]⟩, ⟨"c", [.text "new"]⟩]

theorem separate_threeFiles : Separate (threeFiles.map (·.name)) where
  plain := by decide
  distinct := by decide
  ne_earlyName := by decide +kernel

theorem blockedTree_whole :
    EndsWhole blockedTree "out" threeFiles
      ∧ on (emit "out" threeFiles) blockedTree
        = (.error (.file "out/b" .isDirectory), blockedTree.put ["out", "a"] (.file "new\n")) :=
  ⟨emit_whole blockedTree "out" threeFiles separate_threeFiles, by decide +kernel⟩

/-- The way to a directory can lead through a name under which a file is to be written into it. -/
theorem not_always_as_before :
    ¬ ∀ (t t' : FileTree) (dir : String) (files : List ManifestFile)
        (before after : List (String × String)) (f : String × String) (fault : FileFault)
        (q : Place),
      Separate (files.map (·.name)) → files.mapM renderNamed = .ok (before ++ f :: after) →
      on (emit dir files) t = (.error (.file (Path.join dir f.1) fault), t') →
      t'.directoryOf? (Path.lead dir) = some q →
      ∀ g ∈ f :: after, t'.entry? (q ++ [g.1]) = t.entry? (q ++ [g.1]) := by
  intro halways
  let left : FileTree := { entries := KeyMap.empty.insert ["x"] .directory }
  have hrun : on (emit "x/.." [⟨"x", [.text "a"]⟩]) {}
      = (.error (.file (Path.join "x/.." "x") .isDirectory), left) := by decide +kernel
  have hnames : Separate ["x"] := ⟨by decide, by decide, by decide +kernel⟩
  have hentry := halways {} left "x/.." [⟨"x", [.text "a"]⟩] [] [] ("x", "a\n") .isDirectory []
    hnames (by decide +kernel) hrun (by decide +kernel) ("x", "a\n") List.mem_cons_self
  exact absurd hentry (by decide +kernel)

end Emission

end Handover
