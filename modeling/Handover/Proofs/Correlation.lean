import Handover.Proofs.Observation

/-!
# From templates to claims

A template is resolved in steps: the pod's volume of that name refers to a claim, the claim is
there, it belongs to the pod and to its host, it asks for storage, and the container mounts the
volume. `Storage.Refused` has a rule for each step that may refuse, in the order in which the steps
are taken, and each rule says that the steps before its own went well. So the first step that
refuses decides (`resolveTemplate_eq_error`).

Of the templates of a node, the first one that is refused decides, and storage is resolved exactly
when none is (`resolve_steps`).
-/

namespace Handover

open Kubernetes

namespace Storage

/-- The failure with which a template is refused. -/
inductive Refused (place : Place) (spec : PodSpec) (container : Container)
    (claims : KeyMap String Claim) (template : ClaimTemplate) : Failure → Prop
  | noVolume : (∀ name, ¬spec.Refers template.name name) →
    Refused place spec container claims template
      (.claimNotFound place.index place.pod template.name)
  | noClaim {name : String} : spec.Refers template.name name → claims.get? name = none →
    Refused place spec container claims template (.notFound "PersistentVolumeClaim" name)
  | otherOwner {name : String} {claim : Claim} : spec.Refers template.name name →
    claims.get? name = some claim → Text.endsWith name s!"-{place.pod}" = false →
    Refused place spec container claims template
      (.nodeMismatch place.index name (.notOwner place.pod))
  | otherHost {name host : String} {claim : Claim} : spec.Refers template.name name →
    claims.get? name = some claim → Text.endsWith name s!"-{place.pod}" = true →
    claim.MadeOn host → host ≠ place.host →
    Refused place spec container claims template
      (.nodeMismatch place.index name (.otherHost host place.pod place.host))
  | noRequest {name : String} {claim : Claim} : spec.Refers template.name name →
    claims.get? name = some claim → Belongs place name claim →
    (∀ size, ¬claim.Requests size) →
    Refused place spec container claims template (.validation (.noStorageRequest name))
  | noMount {name size : String} {claim : Claim} : spec.Refers template.name name →
    claims.get? name = some claim → Belongs place name claim → claim.Requests size →
    (∀ path, ¬container.Mounts template.name path) →
    Refused place spec container claims template
      (.claimNotFound place.index place.pod template.name)

section Template

variable {place : Place} {spec : PodSpec} {container : Container}
  {claims : KeyMap String Claim} {template : ClaimTemplate}

/-- A claim that does not belong to a node is refused for its name before its host is looked at. -/
theorem checkOwner_eq_error {name : String} {claim : Claim} {failure : Failure} :
    checkOwner place name claim = .error failure ↔
      (Text.endsWith name s!"-{place.pod}" = false
          ∧ failure = .nodeMismatch place.index name (.notOwner place.pod))
        ∨ Text.endsWith name s!"-{place.pod}" = true
          ∧ ∃ host, claim.MadeOn host ∧ host ≠ place.host
            ∧ failure = .nodeMismatch place.index name (.otherHost host place.pod place.host) := by
  simp only [← Claim.selectedNode_eq_some_iff]
  unfold checkOwner
  cases howner : Text.endsWith name s!"-{place.pod}" with
  | false => simp [eq_comm]
  | true =>
    cases hselected : claim.metadata.annotation? Names.selectedNode with
    | none => simp
    | some selected =>
      by_cases hhost : selected = place.host <;> simp [hhost, eq_comm]

/-- A template is refused by the first step that does. -/
theorem resolveTemplate_eq_error {failure : Failure} :
    resolveTemplate place spec container claims template = .error failure ↔
      Refused place spec container claims template failure := by
  simp only [resolveTemplate, Outcome.bind_eq_error, Outcome.required_eq_error,
    Outcome.required_eq_ok, checkOwner_eq_error, PodSpec.claimName?_eq_none_iff,
    PodSpec.claimName?_eq_some_iff, Claim.storage?_eq_none_iff, Claim.storage?_eq_some_iff,
    Container.mountPath?_eq_none_iff, Container.mountPath?_eq_some_iff]
  constructor
  · rintro (⟨hname, rfl⟩ | ⟨name, hname, ⟨hclaim, rfl⟩ | ⟨claim, hclaim,
      (⟨hother, rfl⟩ | ⟨howner, host, hmade, hhost, rfl⟩) | ⟨⟨⟩, howned,
      ⟨hsize, rfl⟩ | ⟨size, hsize, ⟨hmount, rfl⟩ | ⟨path, hmount, hdone⟩⟩⟩⟩⟩)
    · exact .noVolume hname
    · exact .noClaim hname hclaim
    · exact .otherOwner hname hclaim hother
    · exact .otherHost hname hclaim howner hmade hhost
    · exact .noRequest hname hclaim (checkOwner_eq_ok.mp howned) hsize
    · exact .noMount hname hclaim (checkOwner_eq_ok.mp howned) hsize hmount
    · cases hdone
  · rintro (hname | ⟨hname, hclaim⟩ | ⟨hname, hclaim, hother⟩ |
      ⟨hname, hclaim, howner, hmade, hhost⟩ | ⟨hname, hclaim, hbelongs, hsize⟩ |
      ⟨hname, hclaim, hbelongs, hsize, hmount⟩)
    · exact .inl ⟨hname, rfl⟩
    · exact .inr ⟨_, hname, .inl ⟨hclaim, rfl⟩⟩
    · exact .inr ⟨_, hname, .inr ⟨_, hclaim, .inl (.inl ⟨hother, rfl⟩)⟩⟩
    · exact .inr ⟨_, hname, .inr ⟨_, hclaim, .inl (.inr ⟨howner, _, hmade, hhost, rfl⟩)⟩⟩
    · exact .inr ⟨_, hname, .inr ⟨_, hclaim, .inr ⟨(), checkOwner_eq_ok.mpr hbelongs,
        .inl ⟨hsize, rfl⟩⟩⟩⟩
    · exact .inr ⟨_, hname, .inr ⟨_, hclaim, .inr ⟨(), checkOwner_eq_ok.mpr hbelongs,
        .inr ⟨_, hsize, .inl ⟨hmount, rfl⟩⟩⟩⟩⟩

/-- What has to be found for a template to be resolved: a claim behind the volume that belongs to
the node and asks for storage, and a mount. -/
structure Backed (place : Place) (spec : PodSpec) (container : Container)
    (claims : KeyMap String Claim) (template : ClaimTemplate) (name : String) (claim : Claim) :
    Prop where
  volume : spec.Refers template.name name
  found : claims.get? name = some claim
  belongs : Belongs place name claim
  request : ∃ size, claim.Requests size
  mount : ∃ path, container.Mounts template.name path

theorem exists_resolveTemplate_iff :
    (∃ d, resolveTemplate place spec container claims template = .ok d) ↔
      ∃ name claim, Backed place spec container claims template name claim := by
  simp only [resolveTemplate_eq_ok]
  constructor
  · rintro ⟨d, claim, h⟩
    exact ⟨d.claimName, claim, {
      volume := h.mounted
      found := h.found
      belongs := h.owned
      request := ⟨d.size, h.size⟩
      mount := ⟨d.mountPath, h.mountPath⟩ }⟩
  · rintro ⟨name, claim, h⟩
    obtain ⟨size, hsize⟩ := h.request
    obtain ⟨path, hpath⟩ := h.mount
    exact ⟨⟨template.name, name, size, _, path, _, _⟩, claim, {
      name := rfl
      mounted := h.volume
      found := h.found
      owned := h.belongs
      size := hsize
      mountPath := hpath
      storageClass := rfl
      volumeName := rfl
      accessModes := rfl }⟩

end Template

/-- Storage is resolved exactly when the pod has a host and there is a claim behind every template;
there is then one descriptor for each template, in their order, with what was found. Otherwise the
failure is that of the pod or else of the first template that is refused. -/
theorem resolve_steps (index : Nat) (pod : Pod) (container : Container)
    (templates : List ClaimTemplate) (claims : KeyMap String Claim) :
    ((∃ ds, resolve index pod container templates claims = .ok ds) ↔
        ∃ spec host, pod.spec = some spec ∧ spec.nodeName = some host
          ∧ ∀ template ∈ templates, ∃ name claim,
            Backed ⟨index, pod.metadata.name.getD "", host⟩ spec container claims template name
              claim)
      ∧ (∀ ds, resolve index pod container templates claims = .ok ds ↔
        ∃ spec host, pod.spec = some spec ∧ spec.nodeName = some host
          ∧ List.Forall₂ (fun template d => ∃ claim,
              Behind ⟨index, pod.metadata.name.getD "", host⟩ spec container claims template claim
                d)
            templates ds)
      ∧ ∀ failure, resolve index pod container templates claims = .error failure ↔
        (pod.spec = none ∧ failure = .notFound "PodSpec" (pod.metadata.name.getD ""))
          ∨ (∃ spec, pod.spec = some spec ∧ spec.nodeName = none
            ∧ failure = .schedulingIncomplete (pod.metadata.name.getD ""))
          ∨ ∃ spec host, pod.spec = some spec ∧ spec.nodeName = some host
            ∧ ∃ before template after, templates = before ++ template :: after
              ∧ (∀ earlier ∈ before, ∃ name claim,
                Backed ⟨index, pod.metadata.name.getD "", host⟩ spec container claims earlier name
                  claim)
              ∧ Refused ⟨index, pod.metadata.name.getD "", host⟩ spec container claims template
                failure := by
  refine ⟨?_, fun ds => resolve_eq_ok, fun failure => ?_⟩
  · simp only [resolve, Outcome.bind_eq_ok, Outcome.required_eq_ok]
    constructor
    · rintro ⟨ds, spec, hspec, host, hhost, h⟩
      refine ⟨spec, host, hspec, hhost, fun template htemplate => ?_⟩
      exact exists_resolveTemplate_iff.mp (Outcome.exists_mapM_eq_ok.mp ⟨ds, h⟩ template htemplate)
    · rintro ⟨spec, host, hspec, hhost, h⟩
      obtain ⟨ds, hds⟩ := Outcome.exists_mapM_eq_ok.mpr fun template htemplate =>
        exists_resolveTemplate_iff.mpr (h template htemplate)
      exact ⟨ds, spec, hspec, host, hhost, hds⟩
  · simp only [resolve, Outcome.bind_eq_error, Outcome.required_eq_error, Outcome.required_eq_ok,
      Outcome.mapM_eq_error, exists_resolveTemplate_iff, resolveTemplate_eq_error]
    constructor
    · rintro (h | ⟨spec, hspec, ⟨hhost, rfl⟩ | ⟨host, hhost, h⟩⟩)
      · exact .inl h
      · exact .inr (.inl ⟨spec, hspec, hhost, rfl⟩)
      · exact .inr (.inr ⟨spec, host, hspec, hhost, h⟩)
    · rintro (h | ⟨spec, hspec, hhost, rfl⟩ | ⟨spec, host, hspec, hhost, h⟩)
      · exact .inl h
      · exact .inr ⟨spec, hspec, .inl ⟨hhost, rfl⟩⟩
      · exact .inr ⟨spec, hspec, .inr ⟨host, hhost, h⟩⟩

/-- A pod with three volumes, two of them under one name, each with a claim of its own. -/
def mountingPod : Pod where
  metadata := { name := some "c-0" }
  spec := some {
    nodeName := some "h"
    volumes := some [
      { name := "d", persistentVolumeClaim := some { claimName := "d-c-0" } },
      { name := "e", persistentVolumeClaim := some { claimName := "e-c-0" } },
      { name := "e", persistentVolumeClaim := some { claimName := "e-c-1" } }] }

/-- A claim on a volume that was made on the host of that pod. -/
def madeOnHost : Claim where
  metadata := { annotations := some (.of [("volume.kubernetes.io/selected-node", "h")]) }
  spec := some { resources := some { requests := some (.of [("storage", "1Gi")]) } }

def claimsOnHost : KeyMap String Claim := .ofList [("d-c-0", madeOnHost), ("e-c-0", madeOnHost)]

/-- A volume is resolved by its first mount, and refused when the container does not mount it. -/
theorem resolve_unmounted :
    (resolve 0 mountingPod
        { volumeMounts := some [{ name := "d", mountPath := "/d" },
          { name := "e", mountPath := "/e" }, { name := "e", mountPath := "/f" }] }
        [{ name := "e" }] claimsOnHost
      = .ok [⟨"e", "e-c-0", "1Gi", none, "/e", none, []⟩])
      ∧ resolve 0 mountingPod { volumeMounts := some [{ name := "d", mountPath := "/d" }] }
          [{ name := "d" }, { name := "e" }] claimsOnHost
        = .error (.claimNotFound 0 "c-0" "e") := by
  obtain ⟨spec, hspec, hhost, hd, he⟩ : ∃ spec, mountingPod.spec = some spec
      ∧ spec.nodeName = some "h" ∧ spec.Refers "d" "d-c-0" ∧ spec.Refers "e" "e-c-0" :=
    ⟨_, rfl, rfl, ⟨_, _, _, rfl, ⟨[], _, rfl, rfl, by simp⟩, rfl, rfl⟩,
      ⟨_, _, _, rfl, ⟨[_], _, rfl, rfl, by simp⟩, rfl, rfl⟩⟩
  have hfound : claimsOnHost.get? "d-c-0" = some madeOnHost
      ∧ claimsOnHost.get? "e-c-0" = some madeOnHost := ⟨rfl, rfl⟩
  have hmade : ∀ host, madeOnHost.MadeOn host → host = "h" := by
    rintro host ⟨annotations, hannotations, hhost⟩
    obtain rfl := Option.some.inj hannotations
    exact (Option.some.inj hhost).symm
  have howned : Belongs ⟨0, "c-0", "h"⟩ "d-c-0" madeOnHost
      ∧ Belongs ⟨0, "c-0", "h"⟩ "e-c-0" madeOnHost := ⟨⟨by decide, hmade⟩, ⟨by decide, hmade⟩⟩
  have hrequest : madeOnHost.Requests "1Gi" := ⟨_, _, _, rfl, rfl, rfl, rfl⟩
  constructor
  · refine ((resolve_steps 0 mountingPod _ _ claimsOnHost).2.1 _).mpr
      ⟨spec, "h", hspec, hhost, .cons ⟨madeOnHost, ?_⟩ .nil⟩
    exact {
      name := rfl
      mounted := he
      found := hfound.2
      owned := howned.2
      size := hrequest
      mountPath := ⟨_, _, rfl, ⟨[_], _, rfl, rfl, by simp⟩, rfl⟩
      storageClass := rfl
      volumeName := rfl
      accessModes := rfl }
  · refine ((resolve_steps 0 mountingPod _ _ claimsOnHost).2.2 _).mpr (.inr (.inr
      ⟨spec, "h", hspec, hhost, [{ name := "d" }], { name := "e" }, [], rfl, ?_,
        .noMount he hfound.2 howned.2 hrequest ?_⟩))
    · refine List.forall_mem_singleton.mpr ⟨"d-c-0", madeOnHost, ?_⟩
      exact {
        volume := hd
        found := hfound.1
        belongs := howned.1
        request := ⟨_, hrequest⟩
        mount := ⟨"/d", _, _, rfl, ⟨[], _, rfl, rfl, by simp⟩, rfl⟩ }
    · rintro path ⟨mounts, m, hmounts, ⟨before, after, hlist, hname, -⟩, -⟩
      obtain rfl := Option.some.inj hmounts
      have hm : m ∈ before ++ m :: after := by simp
      rw [← hlist, List.mem_singleton] at hm
      subst hm
      exact absurd hname (by decide)

end Storage

end Handover
