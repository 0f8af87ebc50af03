import Handover.Proofs.FileNames
import Handover.Proofs.Prepared

/-!
# Runs after other runs

A run writes to the platform, and a later run reads it again. What keeps later runs from being
changed is that a run only lets the store grow (`growsTo_of_handOver`): objects that decide the
files are never written to, and of a ConfigMap only its existence and that of one key are asked
for. So whatever has run before, a run that would have succeeded succeeds, with the same files
(`Request.Decides.of_growsTo`), and a run that is done again finds its bridge built.
-/

namespace Handover

open Kubernetes

/-! ## Reading from a store that has grown -/

section Reading

variable {store store' : ObjectStore} {ns cluster : String}

/-- Reading a cluster looks at nothing that runs write to. -/
theorem Inventory.read_of_readOnly (h : store'.readOnly = store.readOnly) (source : Source) :
    read store' source ns cluster = read store source ns cluster := by
  refine read_of_running ?_ source
  show store'.readOnly.running = store.readOnly.running
  rw [h]

/-- The object with a piece of trust material exists. -/
def ObjectStore.Holds (store : ObjectStore) (ns : String) (ref : Trust.Ref) : Prop :=
  match ref.holder with
  | .secret => (store.secret? ns ref.name).isSome
  | .configMap => (store.configMap? ns ref.name).isSome

theorem TrustMap.checkExists_eq_ok {rename : Trust.Rename} :
    checkExists store ns rename = .ok () ↔ store.Holds ns rename.source := by
  rw [checkExists, ObjectStore.Holds, missing]
  cases rename.source.holder <;> simp [Option.isSome_iff_ne_none]

theorem TrustMap.checked_eq_ok {direction : Direction} {o : ClusterObservation}
    {trust : TrustMap} :
    checked store direction o = .ok trust ↔
      (∀ rename ∈ (ofObservation direction o).renames, store.Holds o.ns rename.source)
        ∧ trust = ofObservation direction o := by
  simp only [checked, Outcome.bind_eq_ok, Outcome.pure_eq_ok, ← checkExists_eq_ok]
  constructor
  · rintro ⟨⟨⟩, hexist, rfl⟩
    exact ⟨Outcome.forM_eq_ok.mp hexist, rfl⟩
  · rintro ⟨hexist, rfl⟩
    exact ⟨(), Outcome.forM_eq_ok.mpr hexist, rfl⟩

/-- An object that holds trust material is still there in a store that has grown. -/
theorem ObjectStore.GrowsTo.holds (hgrows : store.GrowsTo store') {ref : Trust.Ref}
    (h : store.Holds ns ref) : store'.Holds ns ref := by
  unfold Holds at h ⊢
  cases hholder : ref.holder with
  | secret =>
    simp only [hholder] at h ⊢
    rwa [secret?_of_readOnly hgrows.readOnly]
  | configMap =>
    simp only [hholder] at h ⊢
    exact hgrows.configMap h

/-- What has been decided is decided in the same way once the store has grown, except for what
the bridge has to do. -/
theorem Request.Decides.of_growsTo {r : Request} {o : ClusterObservation} {trust : TrustMap}
    {files : List ManifestFile} {b : Bridge} (hgrows : store.GrowsTo store')
    (h : r.Decides store o trust files b) : ∃ b', r.Decides store' o trust files b' := by
  obtain ⟨inventory, hread, hobserve⟩ := h.observed
  obtain ⟨hexist, htrust⟩ := TrustMap.checked_eq_ok.mp h.trusted
  obtain ⟨b', hb'⟩ := Logging.exists_bridge_of_growsTo hgrows h.bridged
  exact ⟨b', {
    observed := ⟨inventory, (Inventory.read_of_readOnly hgrows.readOnly _).trans hread, hobserve⟩
    trusted := TrustMap.checked_eq_ok.mpr
      ⟨fun rename hmem => hgrows.holds (hexist rename hmem), htrust⟩
    synthesized := h.synthesized
    bridged := hb' }⟩

end Reading

/-! ## Stores behind runs -/

section Behind

variable {r : Request} {platform left : Platform}

/-- Up to its files a run lets the store grow, whether or not it fails. -/
theorem growsTo_of_prepare (r : Request) (platform : Platform) :
    platform.store.GrowsTo ((prepare r).on platform).2.store := by
  rcases hon : (prepare r).on platform with ⟨failure | p, left⟩
  · have hleft := failsFirst_prepare r platform failure (by rw [hon])
    rw [hon] at hleft
    obtain rfl : left = platform := hleft
    exact .refl _
  · obtain ⟨o, trust, files, b, hdecides, -, rfl⟩ := prepare_eq_ok.mp hon
    have hgrows := Logging.growsTo_of_bridge hdecides.bridged
    show platform.store.GrowsTo (r.storeBehind o b platform.store)
    rw [Request.storeBehind]
    split
    · exact hgrows.recordRbac _ _
    · exact hgrows

/-- A run leaves the platform as it was when the writing of its files began. -/
theorem handOver_left (platform : Platform) (r : Request) (tree : FileTree) :
    ((handOver platform r : StateM FileTree _).run tree).1.2 = ((prepare r).on platform).2 := by
  rcases hon : (prepare r).on platform with ⟨failure | p, left⟩
  · have hfailed : ((prepare r).on platform).1 = .error failure := by rw [hon]
    have hleft := failsFirst_prepare r platform failure hfailed
    rw [hon] at hleft
    rw [handOver_of_prepare_error hfailed]
    exact hleft.symm
  · rw [handOver_of_prepare_ok hon rfl]

/-- A run lets the store grow, however it ends. -/
theorem growsTo_of_handOver (platform : Platform) (r : Request) (tree : FileTree) :
    platform.store.GrowsTo ((handOver platform r : StateM FileTree _).run tree).1.2.store := by
  rw [handOver_left]
  exact growsTo_of_prepare r platform

end Behind

/-! ## Sequences of runs -/

/-- One run after the other, each on the platform that the one before it has left. The result is
the platform that is left in the end; runs that fail are not tried again. -/
def handOverAll {m : Type → Type} [Monad m] [FileSystem m] (platform : Platform) :
    List Request → m Platform
  | [] => return platform
  | r :: rs => do
    let (_, left) ← (handOver platform r : m _)
    handOverAll left rs

/-- Runs let the store grow, however each of them ends. -/
theorem growsTo_of_handOverAll (rs : List Request) (platform : Platform) (tree : FileTree) :
    platform.store.GrowsTo ((handOverAll platform rs : StateM FileTree _).run tree).1.store := by
  induction rs generalizing platform tree with
  | nil => exact .refl _
  | cons r rs ih => exact (growsTo_of_handOver platform r tree).trans (ih _ _)

/-! ## Files of two runs -/

/-- A run has written texts under their names into its directory. -/
structure Report.Wrote (report : Report) (dir : String) (tree : FileTree)
    (texts : List (String × String)) : Prop where
  files : report.files = texts.map fun f => Path.join dir f.1
  text : ∀ f ∈ texts, tree.readText (Path.join dir f.1) = .ok f.2

/-- What is decided does not depend on where files go. -/
theorem Request.Decides.into {r : Request} {store : ObjectStore} {o : ClusterObservation}
    {trust : TrustMap} {files : List ManifestFile} {b : Bridge}
    (h : r.Decides store o trust files b) (dir : String) :
    Request.Decides { r with outputDir := dir } store o trust files b :=
  ⟨h.observed, h.trusted, h.synthesized, h.bridged⟩

/-- A run that has written its files has written their texts under their names. -/
theorem exists_wrote_of_emit {r : Request} {store : ObjectStore} {o : ClusterObservation}
    {trust : TrustMap} {files : List ManifestFile} {b : Bridge} {paths : List String}
    {dir : String} {tree tree' : FileTree} (hdecides : r.Decides store o trust files b)
    (h : Emission.on (Emission.emit dir files) tree = (.ok paths, tree')) :
    ∃ texts, files.mapM Emission.renderNamed = .ok texts
      ∧ (∀ f ∈ texts, (Emission.earlyName f.1).utf8ByteSize ≤ FileTree.longestName)
      ∧ ((r.prepared o trust files b).report r paths).Wrote dir tree' texts := by
  obtain ⟨inventory, hread, hobserve⟩ := hdecides.observed
  have hnames := sideBySide_of_synthesize hread hobserve hdecides.synthesized
  obtain ⟨texts, hrendered, hpaths, hwritten⟩ := Emission.exists_written_of_emit hnames h
  exact ⟨texts, hrendered, fun f hf => (hwritten f hf).1, hpaths, fun f hf => (hwritten f hf).2⟩

/-- What was written once can be written into any fresh directory. -/
theorem exists_wrote_in_fresh {r : Request} {store : ObjectStore} {o : ClusterObservation}
    {trust : TrustMap} {files : List ManifestFile} {b : Bridge}
    {texts : List (String × String)} {dir : String} {tree : FileTree}
    (hdecides : r.Decides store o trust files b)
    (hrendered : files.mapM Emission.renderNamed = .ok texts)
    (hshort : ∀ f ∈ texts, (Emission.earlyName f.1).utf8ByteSize ≤ FileTree.longestName)
    (hfresh : tree.IsFresh dir) :
    ∃ paths tree', Emission.on (Emission.emit dir files) tree = (.ok paths, tree')
      ∧ ((r.prepared o trust files b).report r paths).Wrote dir tree' texts := by
  obtain ⟨inventory, hread, hobserve⟩ := hdecides.observed
  have hnames := sideBySide_of_synthesize hread hobserve hdecides.synthesized
  obtain ⟨tree', hemit⟩ := Emission.emit_in_fresh hnames hrendered hshort hfresh
  obtain ⟨texts', hrendered', -, hwrote⟩ := exists_wrote_of_emit hdecides hemit
  obtain rfl := Except.ok.inj (hrendered.symm.trans hrendered')
  exact ⟨_, tree', hemit, hwrote⟩

/-- Runs that came before do not change what a run does: if it would have succeeded, it succeeds
behind them, and its report and its files are the same. And a run that is done again at once has
nothing to bridge and leaves every ConfigMap as it was. -/
theorem handOver_after_runs {platform left : Platform} {r : Request} {report : Report}
    {tree tree' : FileTree}
    (hrun : (handOver platform r : StateM FileTree _).run tree = ((.ok report, left), tree')) :
    (∀ (rs : List Request) (start ready : FileTree) (later : Platform) (dir : String),
      (handOverAll platform rs : StateM FileTree _).run start = (later, ready) →
      ready.IsFresh dir →
      ∃ report' left' tree'' texts,
        (handOver later { r with outputDir := dir } : StateM FileTree _).run ready
            = ((.ok report', left'), tree'')
          ∧ report'.nodes = report.nodes ∧ report'.direction = report.direction
          ∧ report'.trust = report.trust
          ∧ report.Wrote r.outputDir tree' texts ∧ report'.Wrote dir tree'' texts)
    ∧ (∀ (ready : FileTree) (dir : String), ∃ result left' tree'',
        (handOver left { r with outputDir := dir } : StateM FileTree _).run ready
            = ((result, left'), tree'')
          ∧ left'.store.configMaps = left.store.configMaps
          ∧ (∀ report', result = .ok report' →
            report'.logging = .unchanged ∨ report'.logging = .skipped)
          ∧ (ready.IsFresh dir → ∃ report', result = .ok report')) := by
  obtain ⟨o, trust, files, b, paths, hdecides, hemit, rfl, rfl⟩ := handOver_eq_ok.mp hrun
  obtain ⟨texts, hrendered, hshort, hwrote⟩ := exists_wrote_of_emit hdecides hemit
  constructor
  · intro rs start ready later dir hruns hfresh
    have hgrows := growsTo_of_handOverAll rs platform start
    rw [hruns] at hgrows
    obtain ⟨b', hdecides'⟩ := hdecides.of_growsTo hgrows
    obtain ⟨paths', tree'', hemit', hwrote'⟩ :=
      exists_wrote_in_fresh hdecides' hrendered hshort hfresh
    have hrun' : (handOver later { r with outputDir := dir } : StateM FileTree _).run ready
        = ((.ok _, _), tree'') :=
      handOver_eq_ok.mpr ⟨o, trust, files, b', paths', hdecides'.into dir, hemit', rfl, rfl⟩
    exact ⟨_, _, tree'', texts, hrun', rfl, rfl, rfl, hwrote, hwrote'⟩
  · intro ready dir
    have hgrows := growsTo_of_handOver platform r tree
    rw [hrun] at hgrows
    obtain ⟨b', hdecides'⟩ := hdecides.of_growsTo hgrows
    obtain ⟨outcome, hagain, hdone⟩ := Logging.bridge_again hdecides.bridged
      (Request.storeBehind_readOnly o b platform.store)
      (Request.storeBehind_configMaps o b platform.store)
    obtain rfl := Except.ok.inj (hdecides'.bridged.symm.trans hagain)
    have hprepared := prepare_eq_ok.mpr ⟨o, trust, files, _, hdecides'.into dir, rfl, rfl⟩
    rcases hwritten : Emission.on (Emission.emit dir files) ready with ⟨written, tree''⟩
    refine ⟨_, _, tree'', handOver_of_prepare_ok hprepared hwritten,
      Request.storeBehind_configMaps o _ _, fun report' hreport => ?_, fun hfresh => ?_⟩
    · obtain ⟨paths', -, rfl⟩ := Outcome.map_eq_ok.mp hreport
      exact hdone
    · obtain ⟨paths', tree₂, hemit', -⟩ :=
        exists_wrote_in_fresh hdecides' hrendered hshort hfresh
      obtain ⟨rfl, rfl⟩ := Prod.mk.inj (hwritten.symm.trans hemit')
      exact ⟨_, rfl⟩

/-- The small cluster is handed over, then once more and, in vain, the other way. A third time it
is handed over with the same files, though its logging has been bridged by then; and done again
at once, the first run has nothing to bridge. -/
theorem smallCluster_afterRuns :
    ∃ report left tree later ready,
      (handOver SmallCluster.secretLogging (SmallCluster.handedOver "o")
          : StateM FileTree _).run {} = ((.ok report, left), tree)
        ∧ report.logging = .applied
        ∧ (handOverAll SmallCluster.secretLogging [SmallCluster.handedOver "p",
            { SmallCluster.handedOver "p" with source := .crdbNode }] : StateM FileTree _).run tree
          = (later, ready)
        ∧ (∃ report' left' tree' texts,
          (handOver later (SmallCluster.handedOver "q") : StateM FileTree _).run ready
              = ((.ok report', left'), tree')
            ∧ report'.nodes = report.nodes ∧ report.Wrote "o" tree texts
            ∧ report'.Wrote "q" tree' texts)
        ∧ ∃ report' left' tree',
          (handOver left (SmallCluster.handedOver "q") : StateM FileTree _).run tree
              = ((.ok report', left'), tree')
            ∧ (report'.logging = .unchanged ∨ report'.logging = .skipped) := by
  have hlogging : ((handOver SmallCluster.secretLogging (SmallCluster.handedOver "o")
      : StateM FileTree _).run {}).1.1.map (·.logging) = .ok .applied := by
    decide +kernel
  have hempty : FileTree.IsFresh ((handOver SmallCluster.secretLogging
      (SmallCluster.handedOver "o") : StateM FileTree _).run {}).2 "q" := by
    decide +kernel
  have hfresh : FileTree.IsFresh ((handOverAll SmallCluster.secretLogging
      [SmallCluster.handedOver "p", { SmallCluster.handedOver "p" with source := .crdbNode }]
      : StateM FileTree _).run ((handOver SmallCluster.secretLogging
        (SmallCluster.handedOver "o") : StateM FileTree _).run {}).2).2 "q" := by
    decide +kernel
  rcases hrun : (handOver SmallCluster.secretLogging (SmallCluster.handedOver "o")
    : StateM FileTree _).run {} with ⟨⟨failure | report, left⟩, tree⟩
  · rw [hrun] at hlogging
    cases hlogging
  rcases hruns : (handOverAll SmallCluster.secretLogging [SmallCluster.handedOver "p",
    { SmallCluster.handedOver "p" with source := .crdbNode }] : StateM FileTree _).run tree
    with ⟨later, ready⟩
  rw [hrun] at hlogging hempty hfresh
  rw [hruns] at hfresh
  obtain ⟨hafter, hagain⟩ := handOver_after_runs hrun
  obtain ⟨report', left', tree', texts, hrun', hnodes, -, -, hwrote, hwrote'⟩ :=
    hafter _ _ _ _ "q" hruns hfresh
  obtain ⟨result, left'', tree'', hrun'', -, hdone, hok⟩ := hagain tree "q"
  obtain ⟨report'', rfl⟩ := hok hempty
  exact ⟨report, left, tree, later, ready, rfl, Except.ok.inj hlogging, hruns,
    ⟨report', left', tree', texts, hrun', hnodes, hwrote, hwrote'⟩,
    ⟨report'', left'', tree'', hrun'', hdone report'' rfl⟩⟩

end Handover
