import Handover.Files.Tree
import Handover.Migration
import Handover.Proofs.Inventory

/-!
# Failing before acting

Nothing that a run does is undone, so a failed run leaves everything as it was only when it fails
before it does anything. The parts of a run are of three kinds: those that only look, which may
fail at any time (`Looks`); those that act and never fail (`NeverFails`); and those that may fail
at first and act then (`FailsFirst`). Looking may be put before the third kind and acting behind
it, and the whole is of the third kind again. Followed through a run in the order of its steps,
these two rules leave no place for a check behind an act.

Writing the files is the last step and may fail halfway, but only with failures of its own: that
a file cannot be written, or a document cannot be put into text.
-/

namespace Handover

namespace OnPlatform

/-! ## Kinds of parts -/

section Kinds

variable {α β : Type} {part : OnPlatform α} {rest : α → OnPlatform β}

/-- A part that changes nothing, whether or not it fails. -/
def Looks (part : OnPlatform α) : Prop :=
  ∀ platform, (part.on platform).2 = platform

/-- A part that comes to a result on every platform. -/
def NeverFails (part : OnPlatform α) : Prop :=
  ∀ platform, ∃ a, (part.on platform).1 = .ok a

/-- A part that has changed nothing when it fails. -/
def FailsFirst (part : OnPlatform α) : Prop :=
  ∀ platform failure, (part.on platform).1 = .error failure → (part.on platform).2 = platform

/-- Two parts one after the other: the second starts where the first has come to a result. -/
theorem on_bind (part : OnPlatform α) (rest : α → OnPlatform β) (platform : Platform) :
    (part >>= rest).on platform = match part.on platform with
      | (.ok a, left) => (rest a).on left
      | (.error failure, left) => (.error failure, left) := by
  rcases hpart : part.on platform with ⟨failure | a, left⟩
  all_goals
    simp only [on] at hpart ⊢
    simp only [ExceptT.run_bind, StateT.run_bind, hpart]
    rfl

theorem NeverFails.bind (hpart : NeverFails part) (hrest : ∀ a, NeverFails (rest a)) :
    NeverFails (part >>= rest) := by
  intro platform
  obtain ⟨a, ha⟩ := hpart platform
  rw [on_bind]
  rcases hon : part.on platform with ⟨failure | a', left⟩
  · rw [hon] at ha
    cases ha
  · exact hrest a' left

/-- Looking may come before. -/
theorem FailsFirst.after_looking (hpart : Looks part) (hrest : ∀ a, FailsFirst (rest a)) :
    FailsFirst (part >>= rest) := by
  intro platform failure hfailed
  have hleft := hpart platform
  rw [on_bind] at hfailed ⊢
  rcases hon : part.on platform with ⟨failure' | a, left⟩
  · rw [hon] at hleft
    exact hleft
  · rw [hon] at hfailed hleft
    obtain rfl : left = platform := hleft
    exact hrest a left failure hfailed

/-- Acting may come behind. -/
theorem FailsFirst.then_act (hpart : FailsFirst part) (hrest : ∀ a, NeverFails (rest a)) :
    FailsFirst (part >>= rest) := by
  intro platform failure hfailed
  have hfirst := hpart platform
  rw [on_bind] at hfailed ⊢
  rcases hon : part.on platform with ⟨failure' | a, left⟩
  · rw [hon] at hfirst
    exact hfirst failure' rfl
  · rw [hon] at hfailed
    obtain ⟨b, hb⟩ := hrest a left
    rw [hb] at hfailed
    cases hfailed

theorem NeverFails.failsFirst (h : NeverFails part) : FailsFirst part := by
  intro platform failure hfailed
  obtain ⟨a, ha⟩ := h platform
  rw [ha] at hfailed
  cases hfailed

end Kinds

/-! ## The parts of a run -/

theorem looks_objects : Looks objects := fun _ => rfl

theorem looks_outcome {α : Type} (outcome : Outcome α) : Looks (liftM outcome) := by
  intro platform
  cases outcome <;> rfl

theorem neverFails_pure {α : Type} (a : α) : NeverFails (pure a) := fun _ => ⟨a, rfl⟩

theorem neverFails_modify (f : Platform → Platform) : NeverFails (modify f) :=
  fun _ => ⟨(), rfl⟩

/-- A bridge is decided before it is built. -/
theorem failsFirst_bridgeLogging (direction : Direction) (o : ClusterObservation) :
    FailsFirst (bridgeLogging direction o) := by
  refine .after_looking looks_objects fun store => ?_
  refine .after_looking (looks_outcome _) fun bridge => ?_
  refine .then_act (neverFails_modify _).failsFirst fun _ => ?_
  exact neverFails_pure _

end OnPlatform

open OnPlatform in
/-- A run that fails before its files are written has done nothing to the platform. -/
theorem failsFirst_prepare (r : Request) : FailsFirst (prepare r) := by
  refine .after_looking looks_objects fun store => ?_
  refine .after_looking (looks_outcome _) fun inventory => ?_
  refine .after_looking (looks_outcome _) fun o => ?_
  refine .after_looking looks_objects fun store => ?_
  refine .after_looking (looks_outcome _) fun trust => ?_
  refine .after_looking (looks_outcome _) fun files => ?_
  -- from here on nothing may fail
  refine .then_act (failsFirst_bridgeLogging _ _) fun logging => ?_
  refine .bind (neverFails_modify _) fun _ => ?_
  dsimp only
  split
  · exact .bind (neverFails_modify _) fun _ => neverFails_pure _
  · exact neverFails_pure _

/-! ## Writing -/

/-- The failures that speak of the source or the target. The others speak of files, of texts, or
of a platform that cannot be reached. -/
def Failure.isRefusal : Failure → Bool
  | .notFound .. | .schedulingIncomplete .. | .nodeMismatch .. | .claimNotFound .. | .parse ..
  | .validation .. => true
  | .platform .. | .file .. | .document .. | .encoding .. => false

/-- A document that cannot be put into text is no refusal. -/
theorem ManifestFile.not_isRefusal_of_render {file : ManifestFile} {failure : Failure}
    (h : file.render = .error failure) : failure.isRefusal = false := by
  rcases Outcome.bind_eq_error.mp h with h | ⟨texts, -, h⟩
  · obtain ⟨document, -, h⟩ := Outcome.exists_of_mapM_eq_error h
    unfold renderDocument at h
    rcases hwrite : (Manifest.normalize document).write with fault | text
    · rw [hwrite] at h
      obtain rfl := Except.error.inj h
      rfl
    · rw [hwrite] at h
      cases h
  · cases h

namespace Emission

/-- A program over files that fails for reasons of its own only. -/
def NeverRefuses {α : Type} (program : ExceptT Failure (StateM FileTree) α) : Prop :=
  ∀ tree failure, (StateT.run (ExceptT.run program) tree).1 = .error failure →
    failure.isRefusal = false

section

variable {α β : Type}

theorem NeverRefuses.bind {program : ExceptT Failure (StateM FileTree) α}
    {rest : α → ExceptT Failure (StateM FileTree) β} (hprogram : NeverRefuses program)
    (hrest : ∀ a, NeverRefuses (rest a)) : NeverRefuses (program >>= rest) := by
  intro tree failure hfailed
  have hfirst := hprogram tree
  rw [ExceptT.run_bind, StateT.run_bind] at hfailed
  rcases hrun : StateT.run (ExceptT.run program) tree with ⟨failure' | a, left⟩
  · rw [hrun] at hfailed hfirst
    obtain rfl := Except.error.inj hfailed
    exact hfirst failure' rfl
  · rw [hrun] at hfailed
    exact hrest a left failure hfailed

theorem neverRefuses_pure (a : α) :
    NeverRefuses (pure a : ExceptT Failure (StateM FileTree) α) := by
  intro tree failure hfailed
  cases hfailed

theorem neverRefuses_lift (action : StateM FileTree α) :
    NeverRefuses (liftM action : ExceptT Failure (StateM FileTree) α) := by
  intro tree failure hfailed
  cases hfailed

theorem neverRefuses_throw (path : String) (fault : FileFault) :
    NeverRefuses (throw (.file path fault) : ExceptT Failure (StateM FileTree) α) := by
  intro tree failure hfailed
  obtain rfl := Except.error.inj hfailed
  rfl

/-- An operation on files fails with an error of the file system. -/
theorem neverRefuses_naming (path : String) (operation : StateM FileTree (Except FileFault α)) :
    NeverRefuses (FileSystem.naming path operation) := by
  refine .bind (neverRefuses_lift operation) fun result => ?_
  cases result with
  | ok a => exact neverRefuses_pure a
  | error fault => exact neverRefuses_throw path fault

end

theorem neverRefuses_writeWhole (path text : String) :
    NeverRefuses (writeWhole path text : ExceptT Failure (StateM FileTree) Unit) := by
  refine .bind (neverRefuses_naming _ _) fun _ => ?_
  refine .bind (neverRefuses_lift _) fun renamed => ?_
  cases renamed with
  | ok _ => exact neverRefuses_pure ()
  | error fault => exact .bind (neverRefuses_lift _) fun _ => neverRefuses_throw path fault

theorem neverRefuses_writeAll (dir : String) : ∀ files : List (String × String),
    NeverRefuses (writeAll dir files : ExceptT Failure (StateM FileTree) (List String))
  | [] => neverRefuses_pure []
  | (name, text) :: files => by
    refine .bind (neverRefuses_writeWhole _ text) fun _ => ?_
    refine .bind (neverRefuses_writeAll dir files) fun _ => ?_
    exact neverRefuses_pure _

theorem neverRefuses_emit (dir : String) (files : List ManifestFile) :
    NeverRefuses (emit dir files : ExceptT Failure (StateM FileTree) (List String)) := by
  refine .bind ?_ fun rendered => ?_
  · intro tree failure hfailed
    obtain ⟨file, -, h⟩ := Outcome.exists_of_mapM_eq_error hfailed
    rcases Outcome.bind_eq_error.mp h with h | ⟨text, -, h⟩
    · exact ManifestFile.not_isRefusal_of_render h
    · cases h
  · refine .bind (neverRefuses_naming _ _) fun _ => ?_
    exact neverRefuses_writeAll dir rendered

end Emission

/-! ## Runs -/

/-- In no setting does a run that fails before its files are written do anything to it. -/
theorem handOver_of_prepare_error {m : Type → Type} [Monad m] [FileSystem m] {platform : Platform}
    {r : Request} {failure : Failure} (h : ((prepare r).on platform).1 = .error failure) :
    (handOver platform r : m _) = pure (.error failure, platform) := by
  have hleft := failsFirst_prepare r platform failure h
  unfold handOver
  rcases hon : (prepare r).on platform with ⟨failure' | prepared, left⟩
  · rw [hon] at h hleft
    obtain rfl := Except.error.inj h
    obtain rfl : left = platform := hleft
    rfl
  · rw [hon] at h
    cases h

/-- A run that comes to its files is decided by how writing them ends. -/
theorem handOver_of_prepare_ok {platform left : Platform} {r : Request} {prepared : Prepared}
    {tree tree' : FileTree} {written : Outcome (List String)}
    (h : (prepare r).on platform = (.ok prepared, left))
    (hwritten : StateT.run (ExceptT.run (Emission.emit r.outputDir prepared.files
      : ExceptT Failure (StateM FileTree) _)) tree = (written, tree')) :
    (handOver platform r : StateM FileTree _).run tree
      = ((written.map (prepared.report r), left), tree') := by
  unfold handOver
  rw [h]
  show (StateT.run (ExceptT.run (Emission.emit r.outputDir prepared.files
    : ExceptT Failure (StateM FileTree) _)) tree >>= fun ended =>
      StateT.run (pure (ended.1.map (prepared.report r), left) : StateM FileTree _) ended.2) = _
  rw [hwritten]
  rfl

/-- A run that fails because of the source or the target, or before its files are written for
whatever reason, leaves the objects, the records and the files as they were, and has asked for no
renames. -/
theorem handOver_refused_unchanged {platform platform' : Platform} {r : Request}
    {tree tree' : FileTree} {failure : Failure}
    (hrun : (handOver platform r : StateM FileTree _).run tree
      = ((.error failure, platform'), tree'))
    (hkind : failure.isRefusal = true ∨ ((prepare r).on platform).1 = .error failure) :
    platform' = platform ∧ tree' = tree := by
  rcases hon : (prepare r).on platform with ⟨failure' | prepared, left⟩
  · have hfailed : ((prepare r).on platform).1 = .error failure' := by rw [hon]
    rw [handOver_of_prepare_error hfailed] at hrun
    cases hrun
    exact ⟨rfl, rfl⟩
  · -- only writing is left, which does not fail with a refusal
    have hemit := Emission.neverRefuses_emit r.outputDir prepared.files tree failure
    rcases hwritten : StateT.run (ExceptT.run (Emission.emit r.outputDir prepared.files
      : ExceptT Failure (StateM FileTree) _)) tree with ⟨failure' | paths, tree₁⟩
    · rw [handOver_of_prepare_ok hon hwritten] at hrun
      cases hrun
      rcases hkind with hkind | hkind
      · rw [hemit (by rw [hwritten])] at hkind
        cases hkind
      · rw [hon] at hkind
        cases hkind
    · rw [handOver_of_prepare_ok hon hwritten] at hrun
      cases hrun

/-- The small cluster runs secure, but the Secrets with its certificates are missing. -/
theorem smallCluster_refused :
    ∃ failure platform tree,
      (handOver { store := SmallCluster.store [] Names.claimName }
          { source := .statefulSet, cluster := "c-1", namespaceName := "n", outputDir := "o" }
          : StateM FileTree _).run {} = ((.error failure, platform), tree)
        ∧ failure.isRefusal = true
        ∧ platform = { store := SmallCluster.store [] Names.claimName } ∧ tree = {} := by
  have hrefused : (match ((handOver { store := SmallCluster.store [] Names.claimName }
          { source := .statefulSet, cluster := "c-1", namespaceName := "n", outputDir := "o" }
          : StateM FileTree _).run {}).1.1 with
      | .error failure => failure.isRefusal
      | .ok _ => false) = true := by
    decide +kernel
  rcases hrun : (handOver { store := SmallCluster.store [] Names.claimName }
      { source := .statefulSet, cluster := "c-1", namespaceName := "n", outputDir := "o" }
      : StateM FileTree _).run {} with ⟨⟨failure | report, platform⟩, tree⟩
  · rw [hrun] at hrefused
    exact ⟨failure, platform, tree, rfl, hrefused,
      handOver_refused_unchanged hrun (.inl hrefused)⟩
  · rw [hrun] at hrefused
    cases hrefused

end Handover
