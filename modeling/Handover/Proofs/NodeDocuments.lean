import Handover.Proofs.DefiniteDocuments

/-!
# Documents of CrdbNodes

A CrdbNode is written without its empty fields, and read with what stands for a field that is
missing. Record by record, what is left out and what stands for it are the same, so that a node is
read back whenever the objects of the platform within it are (`CrdbNode.readsBack`).

The document of a node that is built for an observed one has no nulls, no status and no metadata of
a server. Normalizing leaves it as it is (`normalize_write`), and the file says the node.
-/

namespace Handover

open Kubernetes Yaml Yaml.Fields Yaml.Codec

/-! ## Reading back -/

namespace Kubernetes

theorem ExternalCertificates.lawful_codec : ExternalCertificates.codec.Lawful := by
  refine fun e => ⟨nofun, ?_⟩
  rw [codec, read_record,
    required_eq (a := e.caConfigMapName) (by simp) (lawful_text _),
    required_eq (a := e.nodeSecretName) (by simp) (lawful_text _),
    required_eq (a := e.rootSqlClientSecretName) (by simp) (lawful_text _)]
  rfl

theorem Certificates.lawful_codec : Certificates.codec.Lawful := by
  refine fun c => ⟨nofun, ?_⟩
  rw [codec, read_record,
    optional_eq (a := c.externalCertificates) rfl fun e _ => ExternalCertificates.lawful_codec e]
  rfl

theorem WalFailoverSpec.lawful_codec : WalFailoverSpec.codec.Lawful := by
  refine fun w => ⟨nofun, ?_⟩
  rw [codec, read_record,
    required_eq (a := w.status) (by simp) (lawful_text _),
    required_eq (a := w.name) (by simp) (lawful_text _),
    required_eq (a := w.path) (by simp) (lawful_text _),
    required_eq (a := w.size) (by simp) (lawful_text _),
    optional_eq (a := w.storageClassName) (by simp) fun s _ => lawful_text s]
  rfl

/-- A store is read back when its claim is. -/
theorem DataStore.readsBack {s : DataStore} (h : Claim.codec.ReadsBack s.volumeClaimTemplate) :
    DataStore.codec.ReadsBack s := by
  refine ⟨nofun, ?_⟩
  rw [codec, read_record,
    required_eq (a := s.name) (by simp) (lawful_text _),
    optional_eq (a := s.path) (by simp) fun p _ => lawful_text p,
    unlessAbsent_eq (a := s.options) (e := s.options.isEmpty) (by simp)
      (fun _ => readsBack_list fun o _ => lawful_text o) List.isEmpty_iff.mp,
    required_eq (a := s.volumeClaimTemplate) (by simp) h]
  rfl

/-- The objects of the platform that a specification embeds are read back. -/
structure CrdbNodeSpec.EmbedsReadBack (s : CrdbNodeSpec) : Prop where
  claims : ∀ store ∈ s.dataStores, Claim.codec.ReadsBack store.volumeClaimTemplate
  env : ∀ e ∈ s.env, EnvVar.codec.ReadsBack e
  resources : ∀ r ∈ s.resourceRequirements, Schema.resourceRequirements.codec.ReadsBack r
  tolerations : ∀ t ∈ s.tolerations, Schema.toleration.codec.ReadsBack t
  affinity : ∀ a ∈ s.affinity, Affinity.codec.ReadsBack a
  spread : ∀ c ∈ s.topologySpreadConstraints, Schema.topologySpreadConstraint.codec.ReadsBack c

theorem isEmpty_labels {labels : Labels} (h : labels.isEmpty = true) : labels = .empty := by
  rcases labels with ⟨entries, hasc⟩
  obtain rfl := List.isEmpty_iff.mp h
  rfl

theorem isEmpty_flags {flags : ExtraFlags} (h : flags.isEmpty = true) : flags = {} := by
  rcases flags with ⟨entries, hnodup⟩
  obtain rfl := List.isEmpty_iff.mp h
  rfl

theorem CrdbNodeSpec.readsBack {s : CrdbNodeSpec} (h : s.EmbedsReadBack) :
    CrdbNodeSpec.codec.ReadsBack s := by
  refine ⟨nofun, ?_⟩
  rw [codec, read_record,
    optional_eq (a := s.nodeName) (by simp) fun t _ => lawful_text t,
    unlessAbsent_eq (a := s.join) (e := s.join.isEmpty) (by simp)
      (fun _ => lawful_text _) String.isEmpty_iff.mp,
    optional_eq (a := s.grpcPort) (by simp) fun i _ => lawful_int32 i,
    optional_eq (a := s.sqlPort) (by simp) fun i _ => lawful_int32 i,
    optional_eq (a := s.httpPort) (by simp) fun i _ => lawful_int32 i,
    unlessAbsent_eq (a := s.localityLabels) (e := s.localityLabels.isEmpty)
      (by simp) (fun _ => readsBack_list fun t _ => lawful_text t)
      List.isEmpty_iff.mp,
    optional_eq (a := s.loggingConfigMapName) (by simp)
      fun t _ => lawful_text t,
    optional_eq (a := s.certificates) (by simp)
      fun c _ => Certificates.lawful_codec c,
    unlessAbsent_eq (a := s.dataStores) (e := s.dataStores.isEmpty) (by simp)
      (fun _ => readsBack_list fun d hd => DataStore.readsBack (h.claims d hd)) List.isEmpty_iff.mp,
    optional_eq (a := s.walFailoverSpec) (by simp)
      fun w _ => WalFailoverSpec.lawful_codec w,
    unlessAbsent_eq (a := s.flags) (e := s.flags.isEmpty) (by simp)
      (fun _ => ExtraFlags.lawful_codec _) isEmpty_flags,
    unlessAbsent_eq (a := s.env) (e := s.env.isEmpty) (by simp)
      (fun _ => readsBack_list h.env) List.isEmpty_iff.mp,
    optional_eq (a := s.resourceRequirements) (by simp) h.resources,
    optional_eq (a := s.serviceAccountName) (by simp) fun t _ => lawful_text t,
    unlessAbsent_eq (a := s.podLabels) (e := s.podLabels.isEmpty) (by simp)
      (fun _ => Labels.lawful_codec _) isEmpty_labels,
    unlessAbsent_eq (a := s.podAnnotations) (e := s.podAnnotations.isEmpty)
      (by simp) (fun _ => Labels.lawful_codec _) isEmpty_labels,
    unlessAbsent_eq (a := s.tolerations) (e := s.tolerations.isEmpty) (by simp)
      (fun _ => readsBack_list h.tolerations) List.isEmpty_iff.mp,
    unlessAbsent_eq (a := s.nodeSelector) (e := s.nodeSelector.isEmpty)
      (by simp) (fun _ => Labels.lawful_codec _) isEmpty_labels,
    optional_eq (a := s.affinity) (by simp) h.affinity,
    unlessAbsent_eq (a := s.topologySpreadConstraints) (e := s.topologySpreadConstraints.isEmpty)
      (by simp) (fun _ => readsBack_list h.spread) List.isEmpty_iff.mp,
    optional_eq (a := s.terminationGracePeriodSeconds) (by simp)
      fun i _ => lawful_int64 i,
    optional_eq (a := s.image) (by simp) fun t _ => lawful_text t]
  rfl

/-- A CrdbNode is read back when its metadata and what its specification embeds are. -/
theorem CrdbNode.readsBack {n : CrdbNode} (hmeta : ObjectMeta.codec.ReadsBack n.metadata)
    (hspec : n.spec.EmbedsReadBack) : CrdbNode.codec.ReadsBack n := by
  refine ⟨nofun, ?_⟩
  rw [codec, read_record,
    required_eq (a := n.apiVersion) (by simp) (lawful_text _),
    required_eq (a := n.kind) (by simp) (lawful_text _),
    required_eq (a := n.metadata) (by simp) hmeta,
    required_eq (a := n.spec) (by simp) (CrdbNodeSpec.readsBack hspec)]
  rfl

/-- Metadata is read back when its times are in their written form and what it carries along is. -/
theorem ObjectMeta.readsBack {m : ObjectMeta}
    (hcreated : ∀ t ∈ m.creationTimestamp, time.ReadsBack t)
    (hdeleted : ∀ t ∈ m.deletionTimestamp, time.ReadsBack t)
    (hmanaged : ∀ vs ∈ m.managedFields, ∀ v ∈ vs, Schema.managedFieldsEntry.codec.ReadsBack v)
    (howners : ∀ vs ∈ m.ownerReferences, ∀ v ∈ vs, Schema.ownerReference.codec.ReadsBack v) :
    ObjectMeta.codec.ReadsBack m := by
  refine ⟨nofun, ?_⟩
  rw [codec, read_record,
    optional_eq (a := m.annotations) (by simp) fun l _ => Labels.lawful_codec l,
    optional_eq (a := m.creationTimestamp) (by simp) hcreated,
    optional_eq (a := m.deletionGracePeriodSeconds) (by simp) fun i _ => lawful_int64 i,
    optional_eq (a := m.deletionTimestamp) (by simp) hdeleted,
    optional_eq (a := m.finalizers) (by simp) fun _ _ => readsBack_list fun t _ => lawful_text t,
    optional_eq (a := m.generateName) (by simp) fun t _ => lawful_text t,
    optional_eq (a := m.generation) (by simp) fun i _ => lawful_int64 i,
    optional_eq (a := m.labels) (by simp) fun l _ => Labels.lawful_codec l,
    optional_eq (a := m.managedFields) (by simp) fun vs h => readsBack_list (hmanaged vs h),
    optional_eq (a := m.name) (by simp) fun t _ => lawful_text t,
    optional_eq (a := m.ns) (by simp) fun t _ => lawful_text t,
    optional_eq (a := m.ownerReferences) (by simp) fun vs h => readsBack_list (howners vs h),
    optional_eq (a := m.resourceVersion) (by simp) fun t _ => lawful_text t,
    optional_eq (a := m.selfLink) (by simp) fun t _ => lawful_text t,
    optional_eq (a := m.uid) (by simp) fun t _ => lawful_text t]
  rfl

theorem VolumeResources.lawful_codec : VolumeResources.codec.Lawful := by
  refine fun r => ⟨nofun, ?_⟩
  rw [codec, read_record,
    optional_eq (a := r.limits) (by simp) fun l _ => Labels.lawful_codec l,
    optional_eq (a := r.requests) (by simp) fun l _ => Labels.lawful_codec l]
  rfl

theorem ClaimSpec.readsBack {s : ClaimSpec}
    (hsource : ∀ v ∈ s.dataSource, Schema.typedLocalObjectReference.codec.ReadsBack v)
    (href : ∀ v ∈ s.dataSourceRef, Schema.typedObjectReference.codec.ReadsBack v)
    (hselector : ∀ v ∈ s.selector, Schema.labelSelector.codec.ReadsBack v) :
    ClaimSpec.codec.ReadsBack s := by
  refine ⟨nofun, ?_⟩
  rw [codec, read_record,
    optional_eq (a := s.accessModes) (by simp) fun _ _ => readsBack_list fun t _ => lawful_text t,
    optional_eq (a := s.dataSource) (by simp) hsource,
    optional_eq (a := s.dataSourceRef) (by simp) href,
    optional_eq (a := s.resources) (by simp) fun r _ => VolumeResources.lawful_codec r,
    optional_eq (a := s.selector) (by simp) hselector,
    optional_eq (a := s.storageClassName) (by simp) fun t _ => lawful_text t,
    optional_eq (a := s.volumeAttributesClassName) (by simp) fun t _ => lawful_text t,
    optional_eq (a := s.volumeMode) (by simp) fun t _ => lawful_text t,
    optional_eq (a := s.volumeName) (by simp) fun t _ => lawful_text t]
  rfl

/-- A claim is read back when its metadata, its specification and its status are. -/
theorem Claim.readsBack {c : Claim} (hmeta : ObjectMeta.codec.ReadsBack c.metadata)
    (hspec : ∀ s ∈ c.spec, ClaimSpec.codec.ReadsBack s)
    (hstatus : ∀ v ∈ c.status, Schema.claimStatus.codec.ReadsBack v) : Claim.codec.ReadsBack c := by
  refine ⟨nofun, ?_⟩
  rw [codec, object, read_record, checkOwn_eq (by simp), checkOwn_eq (by simp), metadataOf,
    withDefault_eq (a := c.metadata) (by simp) hmeta,
    optional_eq (a := c.spec) (by simp) hspec,
    optional_eq (a := c.status) (by simp) hstatus]
  rfl

/-! ## Definite documents -/

open Manifest

theorem EnvVar.definite {e : EnvVar} (h : EnvVar.codec.ReadsBack e) :
    Definite (EnvVar.codec.write e) := by
  have hread := h.2
  rw [codec, read_record] at hread
  obtain ⟨name, -, hread⟩ := Outcome.bind_eq_ok.mp hread
  obtain ⟨value, -, hread⟩ := Outcome.bind_eq_ok.mp hread
  obtain ⟨valueFrom, hvalueFrom, hread⟩ := Outcome.bind_eq_ok.mp hread
  cases hread
  have hdefinite := definite_of_optional (by decide) hvalueFrom
  refine AllDefinite.record ?_
  simpa using hdefinite

theorem Affinity.definite {a : Affinity} (h : Affinity.codec.ReadsBack a) :
    Definite (Affinity.codec.write a) := by
  have hread := h.2
  rw [codec, read_record] at hread
  obtain ⟨node, hnode, hread⟩ := Outcome.bind_eq_ok.mp hread
  obtain ⟨pod, hpod, hread⟩ := Outcome.bind_eq_ok.mp hread
  obtain ⟨anti, hanti, hread⟩ := Outcome.bind_eq_ok.mp hread
  cases hread
  have hnode := definite_of_optional (by decide) hnode
  have hpod := definite_of_optional (by decide) hpod
  have hanti := definite_of_optional (by decide) hanti
  refine AllDefinite.record ?_
  simpa using ⟨hnode, hpod, hanti⟩

/-- Metadata without what it would carry along. -/
theorem ObjectMeta.definite {m : ObjectMeta} (hmanaged : m.managedFields = none)
    (howners : m.ownerReferences = none) : Definite (ObjectMeta.codec.write m) := by
  refine AllDefinite.record ?_
  simp [hmanaged, howners]

@[simp] theorem ExternalCertificates.definite (e : ExternalCertificates) :
    Definite (ExternalCertificates.codec.write e) := by
  refine AllDefinite.record ?_
  simp

@[simp] theorem Certificates.definite (c : Certificates) :
    Definite (Certificates.codec.write c) := by
  refine AllDefinite.record ?_
  simp

@[simp] theorem WalFailoverSpec.definite (w : WalFailoverSpec) :
    Definite (WalFailoverSpec.codec.write w) := by
  refine AllDefinite.record ?_
  simp

@[simp] theorem VolumeResources.definite (r : VolumeResources) :
    Definite (VolumeResources.codec.write r) := by
  refine AllDefinite.record ?_
  simp

/-- A claim's specification without what it would carry along. -/
theorem ClaimSpec.definite {s : ClaimSpec} (hsource : s.dataSource = none)
    (href : s.dataSourceRef = none) (hselector : s.selector = none) :
    Definite (ClaimSpec.codec.write s) := by
  refine AllDefinite.record ?_
  simp [hsource, href, hselector]

theorem DataStore.definite {s : DataStore}
    (h : Definite (Claim.codec.write s.volumeClaimTemplate)) :
    Definite (DataStore.codec.write s) := by
  refine AllDefinite.record ?_
  simp [h]

/-- A specification is definite when its claims are and the objects that it embeds are read back. -/
theorem CrdbNodeSpec.definite {s : CrdbNodeSpec} (h : s.EmbedsReadBack)
    (hclaims : ∀ store ∈ s.dataStores, Definite (Claim.codec.write store.volumeClaimTemplate)) :
    Definite (CrdbNodeSpec.codec.write s) := by
  have hstores := definite_list fun store hstore => DataStore.definite (hclaims store hstore)
  have henv := definite_list fun e he => EnvVar.definite (h.env e he)
  have hresources r hr := (h.resources r hr).definite_shape (by decide)
  have htolerations := definite_list fun t ht => (h.tolerations t ht).definite_shape (by decide)
  have haffinity a ha := Affinity.definite (h.affinity a ha)
  have hspread := definite_list fun c hc => (h.spread c hc).definite_shape (by decide)
  refine AllDefinite.record ?_
  simpa [hstores, henv, htolerations, hspread] using ⟨hresources, haffinity⟩

end Kubernetes

/-! ## Built nodes -/

/-- The objects of the platform that a policy embeds are read back. -/
structure PodPolicy.EmbedsReadBack (p : PodPolicy) : Prop where
  env : ∀ e ∈ p.env, EnvVar.codec.ReadsBack e
  resources : ∀ r ∈ p.resources, Schema.resourceRequirements.codec.ReadsBack r
  tolerations : ∀ t ∈ p.tolerations, Schema.toleration.codec.ReadsBack t
  affinity : ∀ a ∈ p.affinity, Affinity.codec.ReadsBack a
  spread : ∀ c ∈ p.topologySpreadConstraints, Schema.topologySpreadConstraint.codec.ReadsBack c

namespace CrdbNodes

open Manifest

variable {o : ClusterObservation} {n : NodeObservation} {trust : TrustMap} {target : Target}
  {c : CrdbNode}

theorem readsBack_claimTemplate (d : StorageDescriptor) :
    Claim.codec.ReadsBack (claimTemplate d) := by
  refine Claim.readsBack (ObjectMeta.readsBack nofun nofun nofun nofun) ?_ nofun
  rintro s ⟨⟩
  exact ClaimSpec.readsBack nofun nofun nofun

theorem definite_claimTemplate (d : StorageDescriptor) :
    Definite (Claim.codec.write (claimTemplate d)) := by
  refine AllDefinite.record ?_
  simp [claimTemplate, ObjectMeta.definite, ClaimSpec.definite]

theorem readsBack_hostAddress : EnvVar.codec.ReadsBack hostAddress := ⟨nofun, by decide⟩

/-- The claims of a built node are those of its volumes. -/
theorem exists_claimTemplate (h : node o n trust target = .ok c) {store : DataStore}
    (hstore : store ∈ c.spec.dataStores) : ∃ d, store.volumeClaimTemplate = claimTemplate d := by
  obtain ⟨stores, hstores, h⟩ := Outcome.bind_eq_ok.mp h
  obtain rfl := Outcome.pure_eq_ok.mp h
  have hclaims : stores.map (·.volumeClaimTemplate) = n.dataStorage.map claimTemplate :=
    dataStores_map_eq (fun _ _ _ => rfl) hstores
  have hmem := hclaims ▸ List.mem_map_of_mem hstore
  obtain ⟨d, -, hd⟩ := List.mem_map.mp hmem
  exact ⟨d, hd.symm⟩

/-- What a built node embeds is read back when what the policy embeds is. -/
theorem embedsReadBack (h : node o n trust target = .ok c) (hpolicy : o.policy.EmbedsReadBack) :
    c.spec.EmbedsReadBack := by
  have hclaims (store : DataStore) (hstore : store ∈ c.spec.dataStores) :
      Claim.codec.ReadsBack store.volumeClaimTemplate := by
    obtain ⟨d, hd⟩ := exists_claimTemplate h hstore
    exact hd ▸ readsBack_claimTemplate d
  obtain ⟨stores, -, h⟩ := Outcome.bind_eq_ok.mp h
  obtain rfl := Outcome.pure_eq_ok.mp h
  refine ⟨hclaims, fun e he => ?_, hpolicy.resources, hpolicy.tolerations, hpolicy.affinity,
    hpolicy.spread⟩
  rcases List.mem_append.mp he with he | he
  · exact hpolicy.env e he
  · obtain rfl := List.mem_singleton.mp he
    exact readsBack_hostAddress

/-- Metadata of labels and names is written as nothing else. -/
theorem write_metadata (labels : Labels) (name ns : String) :
    ObjectMeta.codec.write { labels := some labels, name := some name, ns := some ns }
      = .record [("labels", Labels.codec.write labels), ("name", .text name),
        ("namespace", .text ns)] := rfl

/-- A built node has no metadata that a server keeps. -/
theorem dropServerKeys_metadata (h : node o n trust target = .ok c) :
    dropServerKeys (ObjectMeta.codec.write c.metadata) = ObjectMeta.codec.write c.metadata := by
  obtain ⟨stores, -, h⟩ := Outcome.bind_eq_ok.mp h
  obtain rfl := Outcome.pure_eq_ok.mp h
  rw [write_metadata]
  refine congrArg Value.map (dropKeys_eq_self ?_)
  simp [serverKeys, creationTimestamp]

theorem definite_metadata (h : node o n trust target = .ok c) :
    Definite (ObjectMeta.codec.write c.metadata) := by
  obtain ⟨stores, -, h⟩ := Outcome.bind_eq_ok.mp h
  obtain rfl := Outcome.pure_eq_ok.mp h
  exact ObjectMeta.definite rfl rfl

theorem readsBack_metadata (h : node o n trust target = .ok c) :
    ObjectMeta.codec.ReadsBack c.metadata := by
  obtain ⟨stores, -, h⟩ := Outcome.bind_eq_ok.mp h
  obtain rfl := Outcome.pure_eq_ok.mp h
  exact ObjectMeta.readsBack nofun nofun nofun nofun

/-- Normalizing leaves the document of a built node as it is. -/
theorem normalize_write (h : node o n trust target = .ok c) (hpolicy : o.policy.EmbedsReadBack) :
    normalize (CrdbNode.codec.write c) = CrdbNode.codec.write c := by
  have hspec : Definite (CrdbNodeSpec.codec.write c.spec) := by
    refine CrdbNodeSpec.definite (embedsReadBack h hpolicy) fun store hstore => ?_
    obtain ⟨d, hd⟩ := exists_claimTemplate h hstore
    exact hd ▸ definite_claimTemplate d
  have hdefinite : Definite (CrdbNode.codec.write c) := by
    refine AllDefinite.record ?_
    simpa using ⟨definite_metadata h, hspec⟩
  refine normalize_eq_self hdefinite.2 ?_ ?_
  · simp [one, isEmptyStatusEntry, holdsAt]
  · simpa [CrdbNode.codec, one] using dropServerKeys_metadata h

/-- Writing a CrdbNode loses nothing, as far as the objects of the platform in it are read back; and
where a node is built for an observed one, the document that is emitted for it reads as it. -/
theorem read_write :
    (∀ c : CrdbNode, ObjectMeta.codec.ReadsBack c.metadata → c.spec.EmbedsReadBack →
      CrdbNode.codec.read (CrdbNode.codec.write c) = .ok c)
    ∧ ∀ (o : ClusterObservation) (n : NodeObservation) (trust : TrustMap) (target : Target)
        (c : CrdbNode), node o n trust target = .ok c → o.policy.EmbedsReadBack →
        CrdbNode.codec.read (normalize (CrdbNode.codec.write c)) = .ok c := by
  refine ⟨fun c hmeta hspec => (CrdbNode.readsBack hmeta hspec).2, ?_⟩
  intro o n trust target c h hpolicy
  rw [normalize_write h hpolicy]
  exact (CrdbNode.readsBack (readsBack_metadata h) (embedsReadBack h hpolicy)).2

/-! A node with a store of its own options, an attached volume that is not in use for failover, and
a policy that fills every part of a specification. -/

def placedPolicy : PodPolicy where
  image := some "cockroachdb/cockroach:v24.1.0"
  serviceAccountName := some "crdb"
  terminationGracePeriodSeconds := some 300
  tolerations := [.record [("effect", .text "NoSchedule"), ("key", .text "db")]]
  nodeSelector := .of [("disk", "ssd")]
  affinity := some {
    podAntiAffinity := some (.record [
      ("requiredDuringSchedulingIgnoredDuringExecution", .seq [
        .record [("topologyKey", .text "kubernetes.io/hostname")]])]) }
  topologySpreadConstraints := [.record [
    ("maxSkew", .number (.int 1)), ("topologyKey", .text "zone"),
    ("whenUnsatisfiable", .text "DoNotSchedule")]]
  resources := some (.record [("limits", .record [("cpu", .text "2")])])
  env := [{ name := "GOGC", value := some "100" }]
  labels := .of [("tier", "db")]
  annotations := .of [("creationTimestamp", "")]

def placedNode : NodeObservation where
  index := 0
  podName := "c-0"
  host := "host-a"
  flags := {
    sqlPort := 26257, grpcPort := 26258, httpPort := 8080, join := [], insecure := false
    locality := [("region", "a")], walFailover := none, stores := ["path=/data,attrs=ssd"]
    logConfigFile := none, extra := .ofList [("--cache", "25%"), ("--vmodule", "")] }
  walFailover := .disabled
  storage := [
    { name := "data", claimName := "data-c-0", size := "1Gi", storageClass := none,
      mountPath := "/data", volumeName := none, accessModes := [] },
    { name := Names.failoverVolume, claimName := "failoverdir-c-0", size := "1Gi",
      storageClass := some "fast", mountPath := "/failover", volumeName := none,
      accessModes := [] }]
  failover := none

def placedCluster : ClusterObservation where
  cluster := "c"
  ns := "n"
  source := .statefulSet
  secure := true
  logging := some (.configMap "log")
  certificates := none
  policy := placedPolicy
  publicService := none
  first := placedNode
  others := []

def placedTrust : TrustMap :=
  ⟨[⟨.node, ⟨.secret, "c-node-secret", none⟩, ⟨.secret, "c-node-certs", none⟩⟩]⟩

theorem embedsReadBack_placedPolicy : placedPolicy.EmbedsReadBack where
  env := List.forall_mem_singleton.mpr ⟨nofun, by decide⟩
  resources := by
    rintro r ⟨⟩
    exact ⟨nofun, by decide⟩
  tolerations := List.forall_mem_singleton.mpr ⟨nofun, by decide⟩
  affinity := by
    rintro a ⟨⟩
    exact ⟨nofun, by decide⟩
  spread := List.forall_mem_singleton.mpr ⟨nofun, by decide⟩

theorem placedNode_read_write :
    ∃ c, node placedCluster placedNode placedTrust {} = .ok c
      ∧ CrdbNode.codec.read (CrdbNode.codec.write c) = .ok c
      ∧ CrdbNode.codec.read (normalize (CrdbNode.codec.write c)) = .ok c := by
  have hpolicy := embedsReadBack_placedPolicy
  obtain ⟨c, h⟩ : ∃ c, node placedCluster placedNode placedTrust {} = .ok c :=
    Outcome.exists_of_isOk (by decide)
  exact ⟨c, h, read_write.1 c (readsBack_metadata h) (embedsReadBack h hpolicy),
    read_write.2 placedCluster placedNode placedTrust {} c h hpolicy⟩

end CrdbNodes

end Handover
