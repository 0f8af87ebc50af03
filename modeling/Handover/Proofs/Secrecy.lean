import Handover.Proofs.LoggingKept

/-!
# What Secrets hold stays out

A run asks of the Secrets with trust material whether they exist, and of no more. What one Secret
holds is read, the one with the configuration of logging, and only when pods mount it. So a run on
two stores that differ in what all other Secrets hold decides the same on both, down to the reason
for which it fails (`Request.decide_of_seesAlike`), and acts in the same way: the same result, the
same files, and stores that differ in their Secrets as they did before (`handOver_seesAlike`).
-/

namespace Handover

open Kubernetes

/-! ## Stores that differ in what Secrets hold -/

/-- A Secret without what it holds. -/
def Kubernetes.Secret.sealed (secret : Secret) : Secret :=
  { secret with data := none, stringData := none }

/-- Two stores hold the same objects but for what Secrets hold, and that is the same where the pods
of a request's cluster mount a Secret for the configuration of logging. -/
structure Request.SeesAlike (r : Request) (store store' : ObjectStore) : Prop where
  others : { store' with secrets := .empty } = { store with secrets := .empty }
  sealed : ∀ ns name,
    (store'.secret? ns name).map Secret.sealed = (store.secret? ns name).map Secret.sealed
  logging : ∀ name, store.LogsBy r.source r.namespaceName r.cluster (.secret name) →
    store'.secret? r.namespaceName name = store.secret? r.namespaceName name

section Decided

variable {r : Request} {store store' : ObjectStore}

theorem Request.SeesAlike.eq_with (h : r.SeesAlike store store') :
    store' = { store with secrets := store'.secrets } := by
  cases store
  cases store'
  have hothers := h.others
  simp only [ObjectStore.mk.injEq] at hothers ⊢
  simp [hothers]

theorem Request.SeesAlike.running (h : r.SeesAlike store store') :
    store'.running = store.running := by
  rw [h.eq_with]
  rfl

theorem Request.SeesAlike.configMap? (h : r.SeesAlike store store') (ns name : String) :
    store'.configMap? ns name = store.configMap? ns name := by
  rw [h.eq_with]
  rfl

/-- Whether a Secret exists shows without what it holds. -/
theorem Request.SeesAlike.isSome_secret? (h : r.SeesAlike store store') (ns name : String) :
    (store'.secret? ns name).isSome = (store.secret? ns name).isSome := by
  rw [← Option.isSome_map (f := Secret.sealed), h.sealed, Option.isSome_map]

/-! ## Decisions -/

/-- Of trust material it is only asked whether it exists. -/
theorem TrustMap.checked_of_seesAlike (h : r.SeesAlike store store') (direction : Direction)
    (o : ClusterObservation) : checked store' direction o = checked store direction o := by
  have hcheck : checkExists store' o.ns = checkExists store o.ns := by
    funext rename
    simp only [checkExists, h.isSome_secret?, h.configMap?]
  rw [checked, checked, hcheck]

/-- A bridge from a Secret looks at nothing but this Secret and the ConfigMap of its name. -/
theorem Logging.bridgeSecret_congr {ns name : String}
    (hsecret : store'.secret? ns name = store.secret? ns name)
    (hmap : store'.configMap? ns name = store.configMap? ns name) :
    bridgeSecret store' ns name = bridgeSecret store ns name := by
  rw [bridgeSecret, bridgeSecret, hsecret, hmap]

theorem Logging.bridge_of_seesAlike (h : r.SeesAlike store store') {inventory : Inventory}
    {o : ClusterObservation}
    (hread : Inventory.read store r.source r.namespaceName r.cluster = .ok inventory)
    (hobserve : observe inventory = .ok o) (direction : Direction) :
    bridge store' direction o = bridge store direction o := by
  have hns := ns_of_observe hread hobserve
  unfold bridge
  split
  · rename_i name hlogging
    rw [hns]
    exact bridgeSecret_congr (h.logging name (logsBy_of_observe hread hobserve hlogging))
      (h.configMap? _ _)
  · rw [relocateKey, relocateKey, h.configMap?]
  · rfl

/-- Whatever the other Secrets hold, a run decides the same, or fails for the same reason. -/
theorem Request.decide_of_seesAlike (h : r.SeesAlike store store') :
    r.decide store' = r.decide store := by
  rw [Request.decide, Request.decide, Inventory.read_of_running h.running]
  refine Outcome.bind_congr fun inventory hread => Outcome.bind_congr fun o hobserve => ?_
  rw [TrustMap.checked_of_seesAlike h]
  refine Outcome.bind_congr fun trust _ => Outcome.bind_congr fun files _ => ?_
  rw [Logging.bridge_of_seesAlike h hread hobserve]

end Decided

/-! ## Runs -/

/-- What a run does to a store it does whatever the Secrets hold, and leaves them as they are. -/
theorem Request.storeBehind_with_secrets (r : Request) (o : ClusterObservation) (b : Bridge)
    (store : ObjectStore) (secrets : Objects Secret) :
    r.storeBehind o b { store with secrets }
      = { r.storeBehind o b store with secrets } := by
  have hrun : b.run { store with secrets } o.ns = { b.run store o.ns with secrets } := by
    rw [Bridge.run, Bridge.run]
    split <;> rfl
  rw [Request.storeBehind, Request.storeBehind, hrun]
  split <;> rfl

/-- What Secrets hold does not get out. On two stores that differ in nothing else, a run fails for
the same reason or comes to the same report, writes the same files, and leaves two stores that again
differ in what their Secrets hold and in nothing else. Only the Secret with the configuration of
logging must be the same. -/
theorem handOver_seesAlike {platform left : Platform} {r : Request} {result : Outcome Report}
    {store' : ObjectStore} {tree tree' : FileTree}
    (halike : r.SeesAlike platform.store store')
    (hrun : (handOver platform r : StateM FileTree _).run tree = ((result, left), tree')) :
    (handOver { platform with store := store' } r : StateM FileTree _).run tree
      = ((result, { left with store := { left.store with secrets := store'.secrets } }),
        tree') := by
  have hprepared := prepare_on r platform
  have hprepared' := prepare_on r { platform with store := store' }
  simp only [Request.decide_of_seesAlike halike] at hprepared'
  rcases hdecide : r.decide platform.store with failure | ⟨o, trust, files, b⟩
  · -- neither run has done anything
    simp only [hdecide] at hprepared hprepared'
    rw [handOver_of_prepare_error (by rw [hprepared])] at hrun
    rw [handOver_of_prepare_error (by rw [hprepared'])]
    cases hrun
    rw [← halike.eq_with]
    rfl
  · simp only [hdecide] at hprepared hprepared'
    rcases hwritten : Emission.on (Emission.emit r.outputDir files) tree with ⟨written, tree''⟩
    rw [handOver_of_prepare_ok hprepared hwritten] at hrun
    rw [handOver_of_prepare_ok hprepared' hwritten]
    cases hrun
    rw [Request.acted, Request.acted, ← Request.storeBehind_with_secrets, ← halike.eq_with]

/-- Other private keys in the Secrets of the small cluster change nothing about a run. -/
theorem smallCluster_seesAlike :
    ∃ (report : Report) (left : Platform) (tree : FileTree),
      (SmallCluster.secure "l").store ≠ (SmallCluster.secure "k").store
        ∧ (SmallCluster.handedOver "o").SeesAlike (SmallCluster.secure "k").store
          (SmallCluster.secure "l").store
        ∧ (handOver (SmallCluster.secure "k") (SmallCluster.handedOver "o")
            : StateM FileTree _).run {} = ((.ok report, left), tree)
        ∧ report.logging = .applied
        ∧ (handOver (SmallCluster.secure "l") (SmallCluster.handedOver "o")
            : StateM FileTree _).run {}
          = ((.ok report, { left with store :=
              { left.store with secrets := (SmallCluster.secure "l").store.secrets } }), tree) := by
  have hlogging : ((handOver (SmallCluster.secure "k") (SmallCluster.handedOver "o")
      : StateM FileTree _).run {}).1.1.map (·.logging) = .ok .applied := by
    decide +kernel
  have hother : { SmallCluster.secure "k" with store := (SmallCluster.secure "l").store }
      = SmallCluster.secure "l" := rfl
  have hdiffer : (SmallCluster.secure "l").store ≠ (SmallCluster.secure "k").store := by
    intro heq
    have hsecrets := congrArg (fun store : ObjectStore => store.secrets.map.entries) heq
    revert hsecrets
    decide +kernel
  have hsealed : (SmallCluster.secure "l").store.secrets.map.map Secret.sealed
      = (SmallCluster.secure "k").store.secrets.map.map Secret.sealed := by
    decide +kernel
  have hmounted : ((SmallCluster.secure "k").store.pod? "n" "c-1-0").bind (·.logging?)
      = some (.secret "log") := by
    decide +kernel
  have hsecret : (SmallCluster.secure "l").store.secret? "n" "log"
      = (SmallCluster.secure "k").store.secret? "n" "log" := by
    decide +kernel
  have halike : (SmallCluster.handedOver "o").SeesAlike (SmallCluster.secure "k").store
      (SmallCluster.secure "l").store := {
    others := rfl
    sealed := fun ns name => by
      have hget := congrArg (fun m => m.get? ⟨ns, name⟩) hsealed
      simp only [KeyMap.get?_map] at hget
      exact hget
    logging := by
      rintro name ⟨pod, hpod, hlogs⟩
      have hname := (Option.bind_eq_some_iff.mpr ⟨pod, hpod, hlogs⟩).symm.trans hmounted
      obtain rfl := LoggingRef.secret.inj (Option.some.inj hname)
      exact hsecret }
  rcases hrun : (handOver (SmallCluster.secure "k") (SmallCluster.handedOver "o")
    : StateM FileTree _).run {} with ⟨⟨failure | report, left⟩, tree⟩
  · rw [hrun] at hlogging
    cases hlogging
  rw [hrun] at hlogging
  have hrun' := handOver_seesAlike halike hrun
  rw [hother] at hrun'
  exact ⟨report, left, tree, hdiffer, halike, rfl, Except.ok.inj hlogging, hrun'⟩

end Handover
