import Handover.Proofs.Bridging
import Handover.Proofs.Emission
import Handover.Proofs.Refusal

/-!
# What a run decides and what it does then

Before its files are written a run decides everything from the objects of the platform
(`Request.decide`, `Request.Decides`) and acts on the platform (`Request.acted`). The two are apart:
what is decided does not depend on what runs before have asked for or recorded, and acting cannot
fail (`prepare_on`). A run succeeds when its files can be written as well (`handOver_eq_ok`).
-/

namespace Handover

open Kubernetes

/-- What a run decides from the objects of a store: what the cluster does, how its trust material
is renamed, which files there will be, and how the configuration of logging is bridged. -/
structure Request.Decides (r : Request) (store : ObjectStore) (o : ClusterObservation)
    (trust : TrustMap) (files : List ManifestFile) (b : Bridge) : Prop where
  observed : ∃ inventory,
    Inventory.read store r.source r.namespaceName r.cluster = .ok inventory
      ∧ observe inventory = .ok o
  trusted : TrustMap.checked store (.ofSource r.source) o = .ok trust
  synthesized : synthesize (.ofSource r.source) o trust r.target = .ok files
  bridged : Logging.bridge store (.ofSource r.source) o = .ok b

/-- Whether a run applies permissions. -/
def Request.appliesRbac (r : Request) : Bool :=
  Direction.ofSource r.source = .toStatefulSet && r.applyRbac

/-- What a run has decided, as it will be reported. -/
def Request.prepared (r : Request) (o : ClusterObservation) (trust : TrustMap)
    (files : List ManifestFile) (b : Bridge) : Prepared where
  direction := .ofSource r.source
  nodes := o.nodes.length
  logging := b.outcome
  trust := trust
  rbacApplied := r.appliesRbac
  files := files

/-- The store that a run leaves. -/
def Request.storeBehind (r : Request) (o : ClusterObservation) (b : Bridge)
    (store : ObjectStore) : ObjectStore :=
  if r.appliesRbac then
    (b.run store o.ns).recordRbac r.namespaceName
      (RbacBundle.of r.cluster r.namespaceName (LegacyChart.serviceAccountName o)).objectNames
  else b.run store o.ns

section Behind

variable {r : Request}

theorem Request.storeBehind_readOnly (o : ClusterObservation) (b : Bridge) (store : ObjectStore) :
    (r.storeBehind o b store).readOnly = (b.run store o.ns).readOnly := by
  rw [Request.storeBehind]
  split <;> rfl

theorem Request.storeBehind_configMaps (o : ClusterObservation) (b : Bridge)
    (store : ObjectStore) :
    (r.storeBehind o b store).configMaps = (b.run store o.ns).configMaps := by
  rw [Request.storeBehind]
  split <;> rfl

end Behind

/-- The platform that a run leaves. -/
def Request.acted (r : Request) (o : ClusterObservation) (trust : TrustMap) (b : Bridge)
    (platform : Platform) : Platform where
  store := r.storeBehind o b platform.store
  rekeyed := platform.rekeyed ++ [(r.namespaceName, trust)]

namespace OnPlatform

variable {α β : Type} {platform : Platform}

/-- Looking at the objects of a platform goes on with them. -/
theorem on_objects_bind (rest : ObjectStore → OnPlatform β) :
    (objects >>= rest).on platform = (rest platform.store).on platform := rfl

theorem on_modify_bind (f : Platform → Platform) (rest : Unit → OnPlatform β) :
    ((modify f : OnPlatform Unit) >>= rest).on platform = (rest ()).on (f platform) := rfl

/-- What has been decided leaves the platform as it was. -/
theorem on_outcome_bind (outcome : Outcome α) (rest : α → OnPlatform β) :
    ((liftM outcome : OnPlatform α) >>= rest).on platform = match outcome with
      | .ok a => (rest a).on platform
      | .error failure => (.error failure, platform) := by
  cases outcome <;> rfl

end OnPlatform

/-- All that a run decides, or the first reason why it cannot. -/
def Request.decide (r : Request) (store : ObjectStore) :
    Outcome (ClusterObservation × TrustMap × List ManifestFile × Bridge) := do
  let inventory ← Inventory.read store r.source r.namespaceName r.cluster
  let o ← observe inventory
  let trust ← TrustMap.checked store (.ofSource r.source) o
  let files ← synthesize (.ofSource r.source) o trust r.target
  let b ← Logging.bridge store (.ofSource r.source) o
  return (o, trust, files, b)

theorem Request.decide_eq_ok {r : Request} {store : ObjectStore} {o : ClusterObservation}
    {trust : TrustMap} {files : List ManifestFile} {b : Bridge} :
    r.decide store = .ok (o, trust, files, b) ↔ r.Decides store o trust files b := by
  simp only [Request.decide, Outcome.bind_eq_ok, Outcome.pure_eq_ok]
  constructor
  · rintro ⟨inventory, hread, o, hobserve, trust, htrust, files, hfiles, b, hb, heq⟩
    cases heq
    exact ⟨⟨inventory, hread, hobserve⟩, htrust, hfiles, hb⟩
  · rintro ⟨⟨inventory, hread, hobserve⟩, htrust, hfiles, hb⟩
    exact ⟨inventory, hread, o, hobserve, trust, htrust, files, hfiles, b, hb, rfl⟩

open OnPlatform in
/-- Before its files are written, a run is what it decides and then what it does. Behind the last
decision nothing fails. -/
theorem prepare_on (r : Request) (platform : Platform) :
    (prepare r).on platform = match r.decide platform.store with
      | .ok (o, trust, files, b) => (.ok (r.prepared o trust files b), r.acted o trust b platform)
      | .error failure => (.error failure, platform) := by
  have hact (o : ClusterObservation) (trust : TrustMap) (files : List ManifestFile) (b : Bridge) :
      OnPlatform.on (
        if r.appliesRbac then do
          applyRbac r.namespaceName
            (.of r.cluster r.namespaceName (LegacyChart.serviceAccountName o))
          return r.prepared o trust files b
        else return r.prepared o trust files b) {
          store := b.run platform.store o.ns
          rekeyed := platform.rekeyed ++ [(r.namespaceName, trust)] }
      = (.ok (r.prepared o trust files b), r.acted o trust b platform) := by
    rw [Request.acted, Request.storeBehind]
    split <;> rfl
  simp only [prepare, bridgeLogging, rekey, on_objects_bind, on_outcome_bind, bind_assoc,
    on_modify_bind, pure_bind, Request.decide]
  -- each decision in its turn ends the run or is what the next one goes on from
  rcases Inventory.read platform.store r.source r.namespaceName r.cluster with failure | inventory
  · rfl
  simp only [Outcome.ok_bind]
  rcases observe inventory with failure | o
  · rfl
  simp only [Outcome.ok_bind]
  rcases TrustMap.checked platform.store (.ofSource r.source) o with failure | trust
  · rfl
  simp only [Outcome.ok_bind]
  rcases synthesize (.ofSource r.source) o trust r.target with failure | files
  · rfl
  simp only [Outcome.ok_bind]
  rcases Logging.bridge platform.store (.ofSource r.source) o with failure | b
  · rfl
  exact hact o trust files b

/-- A run comes to its files when everything can be decided, and has acted then. -/
theorem prepare_eq_ok {platform left : Platform} {r : Request} {p : Prepared} :
    (prepare r).on platform = (.ok p, left) ↔
      ∃ o trust files b, r.Decides platform.store o trust files b
        ∧ p = r.prepared o trust files b ∧ left = r.acted o trust b platform := by
  simp only [prepare_on, ← Request.decide_eq_ok]
  rcases r.decide platform.store with failure | ⟨o, trust, files, b⟩
  · simp
  · constructor
    · rintro ⟨⟩
      exact ⟨o, trust, files, b, rfl, rfl, rfl⟩
    · rintro ⟨o', trust', files', b', heq, rfl, rfl⟩
      cases heq
      rfl

/-- A run succeeds when everything can be decided and the files can be written. -/
theorem handOver_eq_ok {platform left : Platform} {r : Request} {report : Report}
    {tree tree' : FileTree} :
    (handOver platform r : StateM FileTree _).run tree = ((.ok report, left), tree') ↔
      ∃ o trust files b paths, r.Decides platform.store o trust files b
        ∧ Emission.on (Emission.emit r.outputDir files) tree = (.ok paths, tree')
        ∧ report = (r.prepared o trust files b).report r paths
        ∧ left = r.acted o trust b platform := by
  rcases hon : (prepare r).on platform with ⟨failure | p, left'⟩
  · have hfailed : ((prepare r).on platform).1 = .error failure := by rw [hon]
    rw [handOver_of_prepare_error hfailed]
    constructor
    · intro h
      cases h
    · rintro ⟨o, trust, files, b, paths, hdecides, -⟩
      rw [prepare_eq_ok.mpr ⟨o, trust, files, b, hdecides, rfl, rfl⟩] at hfailed
      cases hfailed
  · rcases hwritten : Emission.on (Emission.emit r.outputDir p.files) tree
      with ⟨failure | paths, tree₁⟩
    all_goals
      rw [handOver_of_prepare_ok hon hwritten]
      constructor
    · intro h
      cases h
    · rintro ⟨o, trust, files, b, paths, hdecides, hpaths, -⟩
      obtain ⟨hp, -⟩ := Prod.mk.inj
        (hon.symm.trans (prepare_eq_ok.mpr ⟨o, trust, files, b, hdecides, rfl, rfl⟩))
      obtain rfl := Except.ok.inj hp
      cases hwritten.symm.trans hpaths
    · intro h
      obtain ⟨o, trust, files, b, hdecides, rfl, rfl⟩ := prepare_eq_ok.mp hon
      obtain ⟨hresult, rfl⟩ := Prod.mk.inj h
      obtain ⟨hreport, rfl⟩ := Prod.mk.inj hresult
      exact ⟨o, trust, files, b, paths, hdecides, hwritten, (Except.ok.inj hreport).symm, rfl⟩
    · rintro ⟨o, trust, files, b, paths', hdecides, hpaths, rfl, rfl⟩
      obtain ⟨hp, rfl⟩ := Prod.mk.inj
        (hon.symm.trans (prepare_eq_ok.mpr ⟨o, trust, files, b, hdecides, rfl, rfl⟩))
      obtain rfl := Except.ok.inj hp
      obtain ⟨hpaths', rfl⟩ := Prod.mk.inj (hwritten.symm.trans hpaths)
      obtain rfl := Except.ok.inj hpaths'
      rfl

/-- A run that succeeds has a report. -/
theorem exists_report_of_isOk {platform : Platform} {r : Request} {tree : FileTree}
    (h : ((handOver platform r : StateM FileTree _).run tree).1.1.isOk = true) :
    ∃ report left tree',
      (handOver platform r : StateM FileTree _).run tree = ((.ok report, left), tree') := by
  rcases hrun : (handOver platform r : StateM FileTree _).run tree
    with ⟨⟨failure | report, left⟩, tree'⟩
  · rw [hrun] at h
    cases h
  · exact ⟨report, left, tree', rfl⟩

/-! ## Small clusters to run on -/

namespace SmallCluster

/-- The small cluster with its configuration of logging in a Secret. -/
def secretLogging : Platform where
  store := loggingStore (.secret "log") [("log-config.yaml", "a")] []

/-- The small cluster with its configuration of logging in a ConfigMap. -/
def mapLogging : Platform where
  store := loggingStore (.configMap "log") [] [("log-config.yaml", "a")]

/-- A pod that runs secure and mounts the Secret `log`. -/
def securePod (name : String) : Pod :=
  let pod := pod ["start"] Names.claimName name
  { pod with spec := pod.spec.map fun spec =>
      { spec with volumes := spec.volumes.map (· ++ [logVolume (.secret "log")]) } }

/-- A Secret of the cluster with one text. -/
def secretOf (name key text : String) : Secret where
  metadata := { name := some name, ns := some "n" }
  stringData := some (.ofList [(key, text)])

/-- The small cluster run secure, with Secrets for its configuration of logging and its trust
material. -/
def secure (privateKey : String) : Platform where
  store := { store ["start"] Names.claimName with
    pods := .ofList (podNames.map securePod)
    secrets := .ofList [secretOf "log" "log-config.yaml" "a",
      secretOf "c-1-node-secret" "tls.key" privateKey,
      secretOf "c-1-client-secret" "tls.key" privateKey] }

end SmallCluster

end Handover
