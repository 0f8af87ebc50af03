import Handover.Proofs.Observation
import Handover.Synthesis.Basic

/-!
# When a cluster becomes a StatefulSet

The chart of a StatefulSet has one set of values for all nodes. What keeps the way to it from
being taken is that nodes run with different flags, that a claim has another name than a
StatefulSet looks for, or that the stores of the first node cannot be put into values
(`LegacyChart.files_eq_ok`). Nothing else of a node is compared with the first one.
-/

namespace Handover

open Kubernetes Manifest

namespace LegacyChart

variable {o : ClusterObservation} {trust : TrustMap} {target : Target} {files : List ManifestFile}

/-! ## Checks -/

theorem checkUniform_eq_ok {first node : NodeObservation} :
    checkUniform first node = .ok () ↔ node.flags = first.flags := by
  rw [checkUniform]
  by_cases h : node.flags = first.flags <;> simp [h]

/-- The claim that a StatefulSet finds for a volume of a node. -/
def adopted (o : ClusterObservation) (n : NodeObservation) (d : StorageDescriptor) : Claim where
  metadata := {
    name := some (Names.claimName d.name n.podName)
    ns := some o.ns
    labels := some (chartLabels o.cluster) }
  spec := some {
    accessModes := if d.accessModes.isEmpty then none else some d.accessModes
    storageClassName := d.storageClass
    volumeName := d.volumeName
    resources := some { requests := some (.of [("storage", d.size)]) } }

theorem boundClaim_eq_ok {n : NodeObservation} {d : StorageDescriptor} {c : Claim} :
    boundClaim o n d = .ok c ↔
      d.claimName = Names.claimName d.name n.podName ∧ c = adopted o n d := by
  rw [boundClaim]
  by_cases h : d.claimName = Names.claimName d.name n.podName
  · rw [if_pos h]
    exact ⟨fun hc => ⟨h, (Except.ok.inj hc).symm⟩, fun hc => congrArg Except.ok hc.2.symm⟩
  · rw [if_neg h]
    exact ⟨nofun, fun hc => absurd hc.1 h⟩

/-- A node's claims have the names that a StatefulSet looks for. -/
def Adoptable (n : NodeObservation) : Prop :=
  ∀ d ∈ n.storage, d.claimName = Names.claimName d.name n.podName

/-- The claims of a node are those of its volumes, in their order. -/
theorem claims_eq_ok {n : NodeObservation} {claims : List Claim} :
    LegacyChart.claims o n = .ok claims ↔
      Adoptable n ∧ claims = n.storage.map (adopted o n) :=
  Outcome.mapM_eq_ok_map boundClaim_eq_ok

/-! ## Values -/

/-- Whether there are values is settled by the stores of the first node alone. -/
theorem exists_values_eq_ok :
    (∃ chart, values o trust target = .ok chart) ↔ ∃ stores, storeValues o.first = .ok stores := by
  simp only [values, confValues, Outcome.bind_eq_ok, Outcome.pure_eq_ok]
  constructor
  · rintro ⟨chart, conf, ⟨stores, hstores, -⟩, -⟩
    exact ⟨stores, hstores⟩
  · rintro ⟨stores, hstores⟩
    exact ⟨_, _, ⟨stores, hstores, rfl⟩, rfl⟩

/-! ## Files -/

/-- The file of a node's claims. -/
def adoptedFile (o : ClusterObservation) (n : NodeObservation) : ManifestFile :=
  ⟨s!"persistentvolumeclaim-{n.index}.yaml", (n.storage.map (adopted o n)).map Claim.codec.write⟩

/-- The files of a cluster whose claims are adopted. -/
def manifests (o : ClusterObservation) (chart : Yaml.Value) : List ManifestFile :=
  o.nodes.map (adoptedFile o) ++ [
    ⟨"values.yaml", [chart]⟩,
    ⟨"public-service.yaml", [Service.codec.write (publicService o)]⟩,
    (rbac o).file]

theorem claimsFile_eq_ok {n : NodeObservation} {file : ManifestFile} :
    claimsFile o n = .ok file ↔ Adoptable n ∧ file = adoptedFile o n := by
  simp only [claimsFile, Outcome.bind_eq_ok, Outcome.pure_eq_ok, claims_eq_ok]
  constructor
  · rintro ⟨claims, ⟨hnames, rfl⟩, rfl⟩
    exact ⟨hnames, rfl⟩
  · rintro ⟨hnames, rfl⟩
    exact ⟨_, ⟨hnames, rfl⟩, rfl⟩

/-- A cluster becomes a StatefulSet when its nodes run with the same flags, their claims have
the right names, and the stores of the first node can be put into values. -/
theorem files_eq_ok :
    LegacyChart.files o trust target = .ok files ↔
      (∀ n ∈ o.others, n.flags = o.first.flags) ∧ (∀ n ∈ o.nodes, Adoptable n)
        ∧ ∃ chart, values o trust target = .ok chart ∧ files = manifests o chart := by
  simp only [LegacyChart.files, Outcome.bind_eq_ok, Outcome.pure_eq_ok,
    Outcome.mapM_eq_ok_map claimsFile_eq_ok]
  constructor
  · rintro ⟨⟨⟩, hflags, claimFiles, ⟨hnames, rfl⟩, chart, hchart, rfl⟩
    exact ⟨fun n hn => checkUniform_eq_ok.mp (Outcome.forM_eq_ok.mp hflags n hn), hnames, chart,
      hchart, rfl⟩
  · rintro ⟨hflags, hnames, chart, hchart, rfl⟩
    exact ⟨(), Outcome.forM_eq_ok.mpr fun n hn => checkUniform_eq_ok.mpr (hflags n hn), _,
      ⟨hnames, rfl⟩, chart, hchart, rfl⟩

end LegacyChart

/-- Only a cluster under the operator is turned into a StatefulSet. -/
theorem synthesize_toStatefulSet_eq_ok {o : ClusterObservation} {trust : TrustMap}
    {target : Target} {files : List ManifestFile} :
    synthesize .toStatefulSet o trust target = .ok files ↔
      o.source = .crdbNode ∧ LegacyChart.files o trust target = .ok files := by
  cases hsource : o.source <;> simp [synthesize, hsource, Direction.ofSource]

/-- Of a cluster under the operator nothing is looked at but flags, the names of claims, and what
the stores of the first node are given besides their paths. -/
theorem exists_toStatefulSet {o : ClusterObservation} {trust : TrustMap} {target : Target} :
    (∃ files, synthesize .toStatefulSet o trust target = .ok files) ↔
      o.source = .crdbNode ∧ (∀ n ∈ o.nodes, n.flags = o.first.flags)
        ∧ (∀ n ∈ o.nodes, LegacyChart.Adoptable n)
        ∧ ∃ stores, LegacyChart.storeValues o.first = .ok stores := by
  simp only [synthesize_toStatefulSet_eq_ok, LegacyChart.files_eq_ok]
  constructor
  · rintro ⟨files, hsource, hflags, hadoptable, chart, hchart, -⟩
    exact ⟨hsource, List.forall_mem_cons.mpr ⟨rfl, hflags⟩, hadoptable,
      LegacyChart.exists_values_eq_ok.mp ⟨chart, hchart⟩⟩
  · rintro ⟨hsource, hflags, hadoptable, hstores⟩
    obtain ⟨chart, hchart⟩ := LegacyChart.exists_values_eq_ok.mpr hstores
    exact ⟨_, hsource, (List.forall_mem_cons.mp hflags).2, hadoptable, chart, hchart, rfl⟩

end Handover
