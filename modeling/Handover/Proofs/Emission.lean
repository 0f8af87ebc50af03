import Handover.Proofs.Outcome
import Handover.Proofs.Paths

/-!
# What writing leaves in a tree of files

A run writes its files one after the other, each under a name of its own first. Where nothing is
in the way, the whole of it is a list of texts put under their names in one place
(`on_writeAll_eq_ok`): the names under which files are written first are free again, and no file
undoes another. So after a run that has written its files each can be read with its text
(`exists_written_of_emit`), and the same files can be written into any fresh directory
(`emit_in_fresh`), whatever else stands in the tree.
-/

namespace Handover

open Emission

namespace FileTree

/-! ## One entry of a tree -/

/-- Different names lead to different places. -/
theorem concat_inj {q : Place} {name other : String} :
    q ++ [name] = q ++ [other] ↔ name = other := by
  rw [List.append_cancel_left_eq, List.singleton_inj]

section

variable (t : FileTree) {place : Place}

theorem entry?_put (hne : place ≠ []) (e : FileEntry) (p : Place) :
    entry? (t.put place e) p = if p = place then some e else t.entry? p := by
  rw [ entry?, entry?, put, KeyMap.get?_insert]
  by_cases hroot : p = []
  · rw [if_pos hroot, if_pos hroot, if_neg (hroot ▸ hne.symm)]
  · rw [if_neg hroot, if_neg hroot]

theorem entry?_erase (hne : place ≠ []) (p : Place) :
    entry? (t.erase place) p = if p = place then none else t.entry? p := by
  rw [ entry?, entry?, erase, KeyMap.get?_erase]
  by_cases hroot : p = []
  · rw [if_pos hroot, if_pos hroot, if_neg (hroot ▸ hne.symm)]
  · rw [if_neg hroot, if_neg hroot]

/-- Directories stay where they are when a file is put where none of them stands. -/
theorem sameDirectories_put_file {t : FileTree} (hne : place ≠ [])
    (hclear : t.entry? place ≠ some .directory) (text : String) :
    t.SameDirectories (t.put place (.file text)) where
  workingDirectory := rfl
  directory p := by
    rw [entry?_put t hne]
    split
    · rename_i hp
      rw [hp]
      simp [hclear]
    · rfl

end

/-! ## Files in a place -/

/-- A file can be written under a name in a place: no directory is in the way, and the longer
name, under which it is written first, is not too long. -/
structure Clear (t : FileTree) (q : Place) (name : String) : Prop where
  short : (earlyName name).utf8ByteSize ≤ longestName
  early : t.entry? (q ++ [earlyName name]) ≠ some .directory
  final : t.entry? (q ++ [name]) ≠ some .directory

/-- The tree with a text under a name in a place. What stood under the name under which it is
written first is gone. -/
def withFile (t : FileTree) (q : Place) (name text : String) : FileTree :=
  ((t.put (q ++ [earlyName name]) (.file text)).erase (q ++ [earlyName name])).put
    (q ++ [name]) (.file text)

/-- The tree with texts under their names in a place, one after the other. -/
def withFiles (t : FileTree) (q : Place) (files : List (String × String)) : FileTree :=
  files.foldl (fun t f => t.withFile q f.1 f.2) t

section

variable {t : FileTree} {q : Place} {name text : String}

theorem entry?_withFile (p : Place) :
    entry? (t.withFile q name text) p = if p = q ++ [name] then some (.file text)
      else if p = q ++ [earlyName name] then none else t.entry? p := by
  rw [withFile, entry?_put _ (by simp), entry?_erase _ (by simp), entry?_put _ (by simp)]
  refine if_congr Iff.rfl rfl ?_
  by_cases hearly : p = q ++ [earlyName name]
  · rw [if_pos hearly, if_pos hearly]
  · rw [if_neg hearly, if_neg hearly, if_neg hearly]

theorem Clear.sameDirectories (h : t.Clear q name) :
    t.SameDirectories (t.withFile q name text) where
  workingDirectory := rfl
  directory p := by
    rw [entry?_withFile]
    split
    · rename_i hp
      simp [hp, h.final]
    · split
      · rename_i hp
        simp [hp, h.early]
      · rfl

/-- What is clear depends on nothing but where directories are. -/
theorem SameDirectories.clear {t' : FileTree} (h : t.SameDirectories t') :
    t'.Clear q name ↔ t.Clear q name :=
  ⟨fun hclear => ⟨hclear.short, mt (h.directory _).mpr hclear.early,
      mt (h.directory _).mpr hclear.final⟩,
    fun hclear => ⟨hclear.short, mt (h.directory _).mp hclear.early,
      mt (h.directory _).mp hclear.final⟩⟩

theorem sameDirectories_withFiles {files : List (String × String)}
    (h : ∀ f ∈ files, t.Clear q f.1) : t.SameDirectories (t.withFiles q files) := by
  induction files generalizing t with
  | nil => exact ⟨rfl, fun _ => Iff.rfl⟩
  | cons f files ih =>
    obtain ⟨hclear, h⟩ := List.forall_mem_cons.mp h
    have hsame : t.SameDirectories (t.withFile q f.1 f.2) := hclear.sameDirectories
    exact hsame.trans (ih fun f' hf' => hsame.clear.mpr (h f' hf'))

/-- At a place that is no file's, nothing stands if a file was written there first, and otherwise
what stood there. -/
theorem entry?_withFiles_of_no_name {p : Place} {files : List (String × String)}
    (h : ∀ f ∈ files, p ≠ q ++ [f.1]) :
    entry? (t.withFiles q files) p
      = if ∃ f ∈ files, p = q ++ [earlyName f.1] then none else t.entry? p := by
  induction files generalizing t with
  | nil => simp [withFiles]
  | cons f files ih =>
    obtain ⟨hf, h⟩ := List.forall_mem_cons.mp h
    refine (ih (t := t.withFile q f.1 f.2) h).trans ?_
    rw [entry?_withFile, if_neg hf]
    by_cases hfirst : p = q ++ [earlyName f.1]
    · simp [hfirst]
    · rw [if_neg hfirst]
      exact if_congr (by simp [hfirst]) rfl rfl

/-- No file undoes another one when names are distinct and none of them is one under which another
file is written first. -/
theorem entry?_withFiles {files : List (String × String)} (hdistinct : (files.map (·.1)).Nodup)
    (hearly : ∀ f ∈ files, ∀ g ∈ files, f.1 ≠ earlyName g.1) {f : String × String}
    (hf : f ∈ files) : entry? (t.withFiles q files) (q ++ [f.1]) = some (.file f.2) := by
  induction files generalizing t with
  | nil => cases hf
  | cons g files ih =>
    obtain ⟨hnew, hdistinct⟩ := List.nodup_cons.mp hdistinct
    rcases List.mem_cons.mp hf with rfl | hf
    · refine (entry?_withFiles_of_no_name (t := t.withFile q f.1 f.2) fun f' hf' heq => ?_).trans ?_
      · exact hnew (List.mem_map.mpr ⟨f', hf', (concat_inj.mp heq).symm⟩)
      · rw [if_neg, entry?_withFile, if_pos rfl]
        rintro ⟨f', hf', heq⟩
        exact hearly f List.mem_cons_self f' (List.mem_cons_of_mem f hf') (concat_inj.mp heq)
    · exact ih hdistinct (fun f hf g hg => hearly f (List.mem_cons_of_mem _ hf) g
        (List.mem_cons_of_mem _ hg)) hf

end

/-! ## Operations on files -/

section

variable {t t' : FileTree} {path text : String}

/-- What goes on behind something found goes on with it. -/
theorem ok_bind {α β : Type} (a : α) (rest : α → Except FileFault β) :
    ((.ok a : Except FileFault α) >>= rest) = rest a := rfl

theorem readText_eq_ok {place : Place} (hplace : t.locate path = .ok place)
    (hentry : t.entry? place = some (.file text)) (hfile : wantsDirectory path = false) :
    t.readText path = .ok text := by
  rw [readText, hplace, ok_bind, hentry, hfile]
  rfl

theorem writeText_eq_ok (hfile : wantsDirectory path = false) :
    t.writeText path text = .ok t' ↔
      ∃ place, t.locate path = .ok place ∧ t.entry? place ≠ some .directory
        ∧ t' = t.put place (.file text) := by
  rw [writeText]
  cases t.locate path with
  | error fault =>
    constructor
    · intro h
      cases h
    · rintro ⟨_, h, -⟩
      cases h
  | ok place =>
    rw [ok_bind, hfile, Bool.false_or]
    by_cases hdir : t.entry? place = some .directory
    · rw [if_pos (by simpa using hdir)]
      constructor
      · intro h
        cases h
      · rintro ⟨_, h, hfree, -⟩
        exact absurd (Except.ok.inj h ▸ hdir) hfree
    · rw [if_neg (by simpa using hdir)]
      constructor
      · intro h
        exact ⟨place, rfl, hdir, (Except.ok.inj h).symm⟩
      · rintro ⟨_, h, -, rfl⟩
        rw [← Except.ok.inj h]
        rfl

theorem rename_eq_ok {source target : String} {place : Place}
    (hfile : wantsDirectory target = false) (hname : endsInName target = true)
    (hplace : t.locate source = .ok place) (hentry : t.entry? place = some (.file text)) :
    t.rename source target = .ok t' ↔
      ∃ final, t.locate target = .ok final ∧ t.entry? final ≠ some .directory
        ∧ t' = (t.erase place).put final (.file text) := by
  rw [rename, hplace, ok_bind]
  cases t.locate target with
  | error fault =>
    constructor
    · intro h
      cases h
    · rintro ⟨_, h, -⟩
      cases h
  | ok final =>
    rw [ok_bind, hname, hentry, hfile]
    dsimp only
    rw [Bool.not_true, if_neg Bool.false_ne_true, if_neg Bool.false_ne_true]
    by_cases hdir : t.entry? final = some .directory
    · rw [if_pos hdir]
      constructor
      · intro h
        cases h
      · rintro ⟨_, h, hfree, -⟩
        exact absurd (Except.ok.inj h ▸ hdir) hfree
    · rw [if_neg hdir]
      constructor
      · intro h
        exact ⟨final, rfl, hdir, (Except.ok.inj h).symm⟩
      · rintro ⟨_, h, -, rfl⟩
        rw [← Except.ok.inj h]
        rfl

end

end FileTree

namespace Emission

open FileTree

/-! ## Programs over files -/

/-- The result of a program over files on a tree, and the tree that is left. -/
def on {α : Type} (program : ExceptT Failure (StateM FileTree) α) (t : FileTree) :
    Outcome α × FileTree :=
  StateT.run (ExceptT.run program) t

section

variable {α β : Type} {t t' : FileTree}

theorem on_bind_eq_ok {program : ExceptT Failure (StateM FileTree) α}
    {rest : α → ExceptT Failure (StateM FileTree) β} {b : β} :
    on (program >>= rest) t = (.ok b, t') ↔
      ∃ a t₁, on program t = (.ok a, t₁) ∧ on (rest a) t₁ = (.ok b, t') :=
  run_bind_eq_ok

theorem on_pure_eq_ok {a b : α} : on (pure a) t = (.ok b, t') ↔ a = b ∧ t = t' := by
  rw [show on (pure a) t = (.ok a, t) from rfl, Prod.mk.injEq, Except.ok.injEq]

/-- A program that starts with an operation goes on where the operation has led. -/
theorem on_lift_bind (operation : StateM FileTree α)
    (rest : α → ExceptT Failure (StateM FileTree) β) :
    on (liftM operation >>= rest) t = on (rest (operation.run t).1) (operation.run t).2 := rfl

theorem on_naming_eq_ok {path : String} {operation : StateM FileTree (Except FileFault α)} {a : α} :
    on (FileSystem.naming path operation) t = (.ok a, t') ↔ operation.run t = (.ok a, t') := by
  rw [FileSystem.naming, on_lift_bind]
  rcases operation.run t with ⟨fault | a', left⟩
  · exact ⟨nofun, nofun⟩
  · show ((.ok a', left) : Outcome α × FileTree) = (.ok a, t')
      ↔ ((.ok a', left) : Except FileFault α × FileTree) = (.ok a, t')
    simp only [Prod.mk.injEq, Except.ok.injEq]

theorem update_eq_ok {f : FileTree → Except FileFault FileTree} :
    FileTree.update f t = (.ok (), t') ↔ f t = .ok t' := by
  rw [FileTree.update]
  rcases f t with fault | next
  · exact ⟨nofun, nofun⟩
  · exact ⟨fun h => congrArg Except.ok (Prod.mk.inj h).2, fun h => by rw [Except.ok.inj h]⟩

theorem run_writeText_eq_ok {path text : String} :
    StateT.run (FileSystem.writeText path text : StateM FileTree _) t = (.ok (), t') ↔
      t.writeText path text = .ok t' :=
  update_eq_ok (f := (·.writeText path text))

theorem run_rename_eq_ok {source target : String} :
    StateT.run (FileSystem.rename source target : StateM FileTree _) t = (.ok (), t') ↔
      t.rename source target = .ok t' :=
  update_eq_ok (f := (·.rename source target))

end

/-! ## Writing -/

variable {t t' : FileTree} {q : Place} {dir name text : String}

/-- A file is written when it can be written under its first name and be renamed then. -/
theorem on_writeWhole_iff {path : String} :
    on (writeWhole path text) t = (.ok (), t') ↔
      ∃ t₁, t.writeText (temporary path) text = .ok t₁
        ∧ t₁.rename (temporary path) path = .ok t' := by
  rw [writeWhole, on_bind_eq_ok]
  simp only [on_naming_eq_ok, on_lift_bind]
  constructor
  · rintro ⟨written, t₁, hwrite, hrest⟩
    refine ⟨t₁, run_writeText_eq_ok.mp hwrite, run_rename_eq_ok.mp ?_⟩
    rcases hrun : StateT.run (FileSystem.rename (temporary path) path : StateM FileTree _) t₁
      with ⟨fault | renamed, left⟩
    · rw [hrun] at hrest
      cases hrest
    · rw [hrun] at hrest
      exact congrArg (Except.ok (), ·) (Prod.mk.inj hrest).2
  · rintro ⟨t₁, hwrite, hrename⟩
    refine ⟨(), t₁, run_writeText_eq_ok.mpr hwrite, ?_⟩
    rw [run_rename_eq_ok.mpr hrename]
    rfl

/-- A file is written into a directory where its name is clear. -/
theorem on_writeWhole_eq_ok (hname : Path.IsPlain name) :
    on (writeWhole (Path.join dir name) text) t = (.ok (), t') ↔
      ∃ q, t.directoryOf? (Path.lead dir) = some q ∧ t.Clear q name
        ∧ t' = t.withFile q name text := by
  have hearly : wantsDirectory (temporary (Path.join dir name)) = false := by
    rw [temporary_join hname, wantsDirectory_join (isPlain_earlyName hname)]
  have hfinal := wantsDirectory_join hname dir
  have hends := endsInName_join hname dir
  rw [on_writeWhole_iff]
  simp only [writeText_eq_ok hearly]
  -- once the text stands under the first name, the file can be found and renamed
  have hfirst {q : Place} (hq : t.directoryOf? (Path.lead dir) = some q)
      (hshort : (earlyName name).utf8ByteSize ≤ longestName)
      (hclear : t.entry? (q ++ [earlyName name]) ≠ some .directory) :
      (t.put (q ++ [earlyName name]) (.file text)).rename (temporary (Path.join dir name))
          (Path.join dir name) = .ok t' ↔
        t.entry? (q ++ [name]) ≠ some .directory ∧ t' = t.withFile q name text := by
    have hsame := sameDirectories_put_file (List.concat_ne_nil _ _) hclear text
    have hq₁ := (hsame.directoryOf?_eq _).trans hq
    have hplace := (locate_temporary hname).mpr ⟨q, hq₁, hshort, rfl⟩
    have hthere : entry? (t.put (q ++ [earlyName name]) (.file text)) (q ++ [earlyName name])
        = some (.file text) := by
      rw [entry?_put _ (List.concat_ne_nil _ _), if_pos rfl]
    rw [rename_eq_ok hfinal hends hplace hthere]
    constructor
    · rintro ⟨final, hfinal, hfree, rfl⟩
      obtain ⟨q', hq', -, rfl⟩ := (locate_join hname).mp hfinal
      obtain rfl := Option.some.inj (hq₁.symm.trans hq')
      exact ⟨mt (hsame.directory _).mpr hfree, rfl⟩
    · rintro ⟨hfree, rfl⟩
      have hshort' := Nat.le_trans (utf8ByteSize_le_earlyName name) hshort
      exact ⟨q ++ [name], (locate_join hname).mpr ⟨q, hq₁, hshort', rfl⟩,
        mt (hsame.directory _).mp hfree, rfl⟩
  constructor
  · rintro ⟨t₁, ⟨place, hplace, hclear, rfl⟩, hrename⟩
    obtain ⟨q, hq, hshort, rfl⟩ := (locate_temporary hname).mp hplace
    obtain ⟨hfree, rfl⟩ := (hfirst hq hshort hclear).mp hrename
    exact ⟨q, hq, ⟨hshort, hclear, hfree⟩, rfl⟩
  · rintro ⟨q, hq, hclear, rfl⟩
    exact ⟨_, ⟨_, (locate_temporary hname).mpr ⟨q, hq, hclear.short, rfl⟩, hclear.early, rfl⟩,
      (hfirst hq hclear.short hclear.early).mpr ⟨hclear.final, rfl⟩⟩

/-- Files are written one after the other when all their names are clear to begin with. -/
theorem on_writeAll_eq_ok {files : List (String × String)} {paths : List String}
    (hq : t.directoryOf? (Path.lead dir) = some q) (hplain : ∀ f ∈ files, Path.IsPlain f.1) :
    on (writeAll dir files) t = (.ok paths, t') ↔
      (∀ f ∈ files, t.Clear q f.1) ∧ paths = files.map (fun f => Path.join dir f.1)
        ∧ t' = t.withFiles q files := by
  induction files generalizing t paths with
  | nil =>
    rw [writeAll, on_pure_eq_ok]
    simp [withFiles, eq_comm]
  | cons f files ih =>
    obtain ⟨hf, hplain⟩ := List.forall_mem_cons.mp hplain
    rw [writeAll, on_bind_eq_ok, List.forall_mem_cons, List.map_cons]
    -- the files behind the first one meet the same directories
    have hrest {t₁ : FileTree} (hsame : t.SameDirectories t₁) (paths : List String) :
        on (writeAll dir files) t₁ = (.ok paths, t') ↔
          (∀ f ∈ files, t.Clear q f.1) ∧ paths = files.map (fun f => Path.join dir f.1)
            ∧ t' = t₁.withFiles q files := by
      rw [ih ((hsame.directoryOf?_eq _).trans hq) hplain]
      simp only [hsame.clear]
    constructor
    · rintro ⟨⟨⟩, t₁, hwrite, h⟩
      obtain ⟨q', hq', hclear, rfl⟩ := (on_writeWhole_eq_ok hf).mp hwrite
      obtain rfl := Option.some.inj (hq.symm.trans hq')
      obtain ⟨rest, t₂, hwritten, h⟩ := on_bind_eq_ok.mp h
      obtain ⟨rfl, rfl⟩ := on_pure_eq_ok.mp h
      obtain ⟨hclears, rfl, rfl⟩ := (hrest hclear.sameDirectories rest).mp hwritten
      exact ⟨⟨hclear, hclears⟩, rfl, rfl⟩
    · rintro ⟨⟨hclear, hclears⟩, rfl, rfl⟩
      refine ⟨(), _, (on_writeWhole_eq_ok hf).mpr ⟨q, hq, hclear, rfl⟩, ?_⟩
      exact on_bind_eq_ok.mpr ⟨_, _,
        (hrest hclear.sameDirectories _).mpr ⟨hclears, rfl, rfl⟩, rfl⟩

/-- A program that has written a file has found its directory. -/
theorem exists_directoryOf?_of_writeAll {f : String × String} {files : List (String × String)}
    {paths : List String} (hname : Path.IsPlain f.1)
    (h : on (writeAll dir (f :: files)) t = (.ok paths, t')) :
    ∃ q, t.directoryOf? (Path.lead dir) = some q := by
  rw [writeAll, on_bind_eq_ok] at h
  obtain ⟨⟨⟩, t₁, hwrite, -⟩ := h
  obtain ⟨q, hq, -⟩ := (on_writeWhole_eq_ok hname).mp hwrite
  exact ⟨q, hq⟩

end Emission

/-! ## Making directories -/

namespace FileTree

variable {t t' made : FileTree} {path : String}

/-- Names lead to where they led when more directories are there. -/
theorem walk_of_directories {names : List String} {start place : Place}
    (hmore : ∀ p, t.entry? p = some .directory → t'.entry? p = some .directory)
    (h : t.walk start names = .ok place) : t'.walk start names = .ok place := by
  induction names generalizing start with
  | nil => exact h
  | cons name names ih =>
    by_cases hdot : name = "."
    · subst hdot
      exact ih h
    by_cases hdots : name = ".."
    · subst hdots
      exact ih h
    obtain ⟨hshort, hlast | ⟨hne, hentry, h⟩⟩ := (walk_cons_eq_ok hdot hdots).mp h
    · exact (walk_cons_eq_ok hdot hdots).mpr ⟨hshort, .inl hlast⟩
    · exact (walk_cons_eq_ok hdot hdots).mpr ⟨hshort, .inr ⟨hne, hmore _ hentry, ih h⟩⟩

/-- A path leads to where it led when more directories are there. -/
theorem locate_of_directories {place : Place} (hstart : t'.workingDirectory = t.workingDirectory)
    (hmore : ∀ p, t.entry? p = some .directory → t'.entry? p = some .directory)
    (h : t.locate path = .ok place) : t'.locate path = .ok place := by
  rw [locate] at h ⊢
  split at h
  · cases h
  · rename_i hempty
    rw [if_neg hempty]
    split at h
    · cases h
    · rename_i hnull
      rw [if_neg hnull, hstart]
      exact walk_of_directories hmore h

/-- A directory is made where nothing stands. -/
theorem makeDirectory_eq_ok :
    t.makeDirectory path = .ok made ↔
      ∃ place, t.locate path = .ok place ∧ t.entry? place = none
        ∧ made = t.put place .directory := by
  rw [makeDirectory]
  rcases t.locate path with fault | place
  · constructor
    · intro h
      cases h
    · rintro ⟨_, h, -⟩
      cases h
  · rw [ok_bind]
    constructor
    · intro h
      rcases hentry : t.entry? place with _ | entry
      · rw [hentry] at h
        exact ⟨place, rfl, hentry, (Except.ok.inj h).symm⟩
      · rw [hentry] at h
        cases h
    · rintro ⟨_, h, hentry, rfl⟩
      obtain rfl := Except.ok.inj h
      rw [hentry]
      rfl

/-- A place where nothing stands is not the root. -/
theorem ne_nil_of_entry?_eq_none {place : Place} (h : t.entry? place = none) : place ≠ [] := by
  rintro rfl
  cases h

/-- A directory that has been made is found where it was to be made. -/
theorem locate_put_directory {place : Place} (hplace : t.locate path = .ok place)
    (hne : place ≠ []) : locate (t.put place .directory) path = .ok place := by
  refine locate_of_directories (t := t) rfl (fun p hp => ?_) hplace
  rw [entry?_put t hne, hp, ite_self]

theorem isDirectory_of_makeDirectory (h : t.makeDirectory path = .ok made) :
    made.isDirectory path = true := by
  obtain ⟨place, hplace, hentry, rfl⟩ := makeDirectory_eq_ok.mp h
  have hne := ne_nil_of_entry?_eq_none hentry
  exact isDirectory_iff.mpr ⟨place, locate_put_directory hplace hne,
    by rw [entry?_put t hne, if_pos rfl]⟩

/-! ### The whole way to a directory -/

theorem run_makeDirectory_eq_ok :
    StateT.run (FileSystem.makeDirectory path : StateM FileTree _) t = (.ok (), made) ↔
      t.makeDirectory path = .ok made :=
  update_eq_ok (f := (·.makeDirectory path))

/-- A directory that does not have to be made is there. -/
theorem isDirectory_of_run_isDirectory {fault : FileFault}
    (h : StateT.run (do
      if ← (FileSystem.isDirectory path : StateM FileTree _) then
        return (.ok () : Except FileFault Unit)
      else return .error fault) t = (.ok (), made)) : made.isDirectory path = true := by
  change (if t.isDirectory path then pure (.ok ()) else pure (.error fault)
    : StateM FileTree (Except FileFault Unit)) t = (.ok (), made) at h
  split at h
  · rename_i hdir
    rw [← (Prod.mk.inj h).2]
    exact hdir
  · cases h

/-- A program goes on behind its first part with what that one gives and the tree it leaves. -/
theorem run_bind_of_run {α β : Type} {part : StateM FileTree α} {rest : α → StateM FileTree β}
    {t₁ : FileTree} {a : α} (h : StateT.run part t = (a, t₁)) :
    StateT.run (part >>= rest) t = StateT.run (rest a) t₁ := by
  rw [StateT.run_bind, h]
  rfl

theorem isDirectory_of_ensureDirectory
    (h : StateT.run (FileSystem.ensureDirectory path : StateM FileTree _) t = (.ok (), made)) :
    made.isDirectory path = true := by
  rw [FileSystem.ensureDirectory] at h
  rcases hmake : StateT.run (FileSystem.makeDirectory path : StateM FileTree _) t
    with ⟨fault | done, t₁⟩
  · rw [run_bind_of_run hmake] at h
    exact isDirectory_of_run_isDirectory h
  · rw [run_bind_of_run hmake] at h
    cases h
    exact isDirectory_of_makeDirectory (run_makeDirectory_eq_ok.mp hmake)

/-- Making a whole way ends in a directory. -/
theorem isDirectory_of_makeDirectories {depth : Nat} (hne : path ≠ "")
    (h : StateT.run (FileSystem.makeDirectories (depth + 1) path : StateM FileTree _) t
      = (.ok (), made)) : made.isDirectory path = true := by
  rw [FileSystem.makeDirectories, if_neg (by simpa using hne)] at h
  rcases hmake : StateT.run (FileSystem.makeDirectory path : StateM FileTree _) t
    with ⟨fault | done, t₁⟩
  · rw [run_bind_of_run hmake] at h
    cases fault
    case notFound =>
      dsimp only at h
      cases hparent : Path.parent? path with
      | none =>
        rw [hparent] at h
        cases h
      | some parent =>
        rw [hparent] at h
        dsimp only at h
        rcases hmade : StateT.run (FileSystem.makeDirectories depth parent : StateM FileTree _) t₁
          with ⟨fault | done, t₂⟩
        · rw [run_bind_of_run hmade] at h
          cases h
        · rw [run_bind_of_run hmade] at h
          exact isDirectory_of_ensureDirectory h
    all_goals exact isDirectory_of_run_isDirectory h
  · rw [run_bind_of_run hmake] at h
    cases h
    exact isDirectory_of_makeDirectory (run_makeDirectory_eq_ok.mp hmake)

/-- The pieces of a directory's path lead to a place once the directory has been made. -/
theorem exists_directoryOf?_of_makeTree
    (h : StateT.run (FileSystem.makeTree path : StateM FileTree _) t = (.ok (), made)) :
    ∃ q, made.directoryOf? (Path.lead path) = some q := by
  by_cases hempty : path = ""
  · subst hempty
    exact ⟨made.workingDirectory, rfl⟩
  · exact directoryOf?_of_isDirectory (isDirectory_of_makeDirectories hempty h)

/-- A directory that can be made, with all that it lies in, and in which nothing stands then. -/
def IsFresh (t : FileTree) (dir : String) : Prop :=
  ∃ made, StateT.run (FileSystem.makeTree dir : StateM FileTree _) t = (.ok (), made)
    ∧ ∀ {q : Place}, made.directoryOf? (Path.lead dir) = some q →
      ∀ name, entry? made (q ++ [name]) = none

/-- Nothing stands in a place when no entry of the tree lies right below it. -/
theorem forall_entry?_eq_none_iff {q : Place} :
    (∀ name, entry? t (q ++ [name]) = none) ↔
      ∀ e ∈ t.entries.entries, e.1 ≠ [] → e.1.dropLast ≠ q := by
  have hentry (name : String) : entry? t (q ++ [name]) = t.entries.get? (q ++ [name]) :=
    if_neg (List.concat_ne_nil _ _)
  simp only [hentry]
  constructor
  · rintro hnone e he hne rfl
    have hget := KeyMap.get?_eq_some_iff_mem.mpr he
    rw [← List.dropLast_append_getLast hne, hnone] at hget
    cases hget
  · intro hentries name
    rcases hget : t.entries.get? (q ++ [name]) with _ | e
    · rfl
    · have hmem := KeyMap.mem_of_get? hget
      exact absurd List.dropLast_concat (hentries _ hmem (List.concat_ne_nil _ _))

/-- Whether a directory is fresh, from the entries of the tree in which it has been made. -/
def isFresh (t : FileTree) (dir : String) : Bool :=
  match StateT.run (FileSystem.makeTree dir : StateM FileTree _) t with
  | (.ok (), made) =>
    (made.directoryOf? (Path.lead dir)).all fun q =>
      made.entries.entries.all fun e => e.1 = [] || e.1.dropLast ≠ q
  | (.error _, _) => false

theorem isFresh_iff {dir : String} : t.isFresh dir = true ↔ t.IsFresh dir := by
  rw [isFresh, IsFresh]
  rcases StateT.run (FileSystem.makeTree dir : StateM FileTree _) t with ⟨fault | ⟨⟩, made⟩
  · exact ⟨nofun, fun ⟨_, h, _⟩ => nomatch h⟩
  · have hempty {q : Place} : (made.entries.entries.all fun e => e.1 = [] || e.1.dropLast ≠ q)
        = true ↔ ∀ name, entry? made (q ++ [name]) = none := by
      rw [forall_entry?_eq_none_iff]
      simp [or_iff_not_imp_left]
    dsimp only
    cases hq : made.directoryOf? (Path.lead dir) with
    | none => exact ⟨fun _ => ⟨made, rfl, fun hq' => nomatch hq.symm.trans hq'⟩, fun _ => rfl⟩
    | some q =>
      constructor
      · intro h
        refine ⟨made, rfl, fun hq' => ?_⟩
        obtain rfl := Option.some.inj (hq.symm.trans hq')
        exact hempty.mp h
      · rintro ⟨made', h, hnone⟩
        cases h
        exact hempty.mpr (hnone hq)

instance (t : FileTree) (dir : String) : Decidable (t.IsFresh dir) :=
  decidable_of_iff (t.isFresh dir = true) isFresh_iff

end FileTree

/-! ## Emitting files -/

namespace Emission

open FileTree

variable {t t' : FileTree} {dir : String} {files : List ManifestFile}
  {rendered : List (String × String)} {paths : List String}

/-- Names under which files can be written side by side. -/
structure SideBySide (names : List String) : Prop where
  plain : ∀ name ∈ names, Path.IsPlain name
  /-- No name is one under which another file is written first. -/
  no_dot : ∀ name ∈ names, name.toList.head? ≠ some '.'
  distinct : names.Nodup

/-- A name under which a file is written first starts with a dot. -/
theorem SideBySide.ne_earlyName {names : List String} (h : SideBySide names) {name : String}
    (hname : name ∈ names) (other : String) : name ≠ earlyName other := by
  intro heq
  have hdot := h.no_dot name hname
  rw [heq, toList_earlyName] at hdot
  exact hdot rfl

theorem on_emit_eq_ok :
    on (emit dir files) t = (.ok paths, t') ↔
      ∃ rendered made, files.mapM renderNamed = .ok rendered
        ∧ StateT.run (FileSystem.makeTree dir : StateM FileTree _) t = (.ok (), made)
        ∧ on (writeAll dir rendered) made = (.ok paths, t') := by
  have hlift (r : Outcome (List (String × String))) : on (emit.liftExcept r) t = (r, t) := rfl
  simp only [emit, on_bind_eq_ok, on_naming_eq_ok, hlift, Prod.mk.injEq]
  constructor
  · rintro ⟨rendered, t₁, ⟨hrendered, rfl⟩, ⟨⟩, made, hmade, hwritten⟩
    exact ⟨rendered, made, hrendered, hmade, hwritten⟩
  · rintro ⟨rendered, made, hrendered, hmade, hwritten⟩
    exact ⟨rendered, t, ⟨hrendered, rfl⟩, (), made, hmade, hwritten⟩

/-- A file keeps its name when it is rendered. -/
theorem names_of_rendered (h : files.mapM renderNamed = .ok rendered) :
    rendered.map (·.1) = files.map (·.name) := by
  have hitems := Outcome.mapM_eq_ok.mp h
  clear h
  induction hitems with
  | nil => rfl
  | cons hfile _ ih =>
    obtain ⟨text, -, heq⟩ := Outcome.bind_eq_ok.mp hfile
    rw [List.map_cons, List.map_cons, ih, ← Outcome.pure_eq_ok.mp heq]

/-- What a run that has written its files leaves behind: their texts under their paths, wherever
its directory lies and whatever else stood in it. -/
theorem exists_written_of_emit (hnames : SideBySide (files.map (·.name)))
    (h : on (emit dir files) t = (.ok paths, t')) :
    ∃ rendered, files.mapM renderNamed = .ok rendered
      ∧ paths = rendered.map (fun f => Path.join dir f.1)
      ∧ ∀ f ∈ rendered, (earlyName f.1).utf8ByteSize ≤ longestName
        ∧ t'.readText (Path.join dir f.1) = .ok f.2 := by
  obtain ⟨rendered, made, hrendered, -, hwritten⟩ := on_emit_eq_ok.mp h
  rw [← names_of_rendered hrendered] at hnames
  have hplain : ∀ f ∈ rendered, Path.IsPlain f.1 := fun f hf =>
    hnames.plain f.1 (List.mem_map_of_mem hf)
  refine ⟨rendered, hrendered, ?_⟩
  cases rendered with
  | nil =>
    rw [writeAll, on_pure_eq_ok] at hwritten
    exact ⟨hwritten.1.symm, nofun⟩
  | cons first rest =>
    obtain ⟨q, hq⟩ := exists_directoryOf?_of_writeAll (hplain first List.mem_cons_self) hwritten
    obtain ⟨hclear, hpaths, rfl⟩ := (on_writeAll_eq_ok hq hplain).mp hwritten
    refine ⟨hpaths, fun f hf => ⟨(hclear f hf).short, ?_⟩⟩
    have hq' := ((sameDirectories_withFiles hclear).directoryOf?_eq (Path.lead dir)).trans hq
    have hshort := Nat.le_trans (utf8ByteSize_le_earlyName f.1) (hclear f hf).short
    refine readText_eq_ok ((locate_join (hplain f hf)).mpr ⟨q, hq', hshort, rfl⟩) ?_
      (wantsDirectory_join (hplain f hf) dir)
    exact entry?_withFiles hnames.distinct
      (fun f' hf' g _ => hnames.ne_earlyName (List.mem_map_of_mem hf') g.1) hf

/-- In a fresh directory nothing is in the way. -/
theorem emit_in_fresh (hnames : SideBySide (files.map (·.name)))
    (hrendered : files.mapM renderNamed = .ok rendered)
    (hshort : ∀ f ∈ rendered, (earlyName f.1).utf8ByteSize ≤ longestName) (hfresh : t.IsFresh dir) :
    ∃ t', on (emit dir files) t = (.ok (rendered.map fun f => Path.join dir f.1), t') := by
  obtain ⟨made, hmade, hempty⟩ := hfresh
  obtain ⟨q, hq⟩ := exists_directoryOf?_of_makeTree hmade
  rw [← names_of_rendered hrendered] at hnames
  have hplain : ∀ f ∈ rendered, Path.IsPlain f.1 := fun f hf =>
    hnames.plain f.1 (List.mem_map_of_mem hf)
  have hclear : ∀ f ∈ rendered, made.Clear q f.1 := fun f hf =>
    ⟨hshort f hf, by simp [hempty hq], by simp [hempty hq]⟩
  exact ⟨made.withFiles q rendered, on_emit_eq_ok.mpr ⟨rendered, made, hrendered, hmade,
    (on_writeAll_eq_ok hq hplain).mpr ⟨hclear, rfl, rfl⟩⟩⟩

end Emission

end Handover
