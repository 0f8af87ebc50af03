import Handover.Proofs.ChartValues
import Handover.Proofs.Names

/-!
# Permissions for the whole platform

What belongs to the whole platform stands in no namespace, so its name has to tell its cluster from
every other one. It is the namespace and the name of the cluster with a dash between them, and a
dash may stand in either of them. So two clusters get in each other's way exactly when one part
between two dashes ends the namespace of the one and begins the name of the other
(`clusterWide_apart_iff`). Within one namespace this cannot be, nor for one name in two namespaces,
nor where no namespace or no name of a cluster holds a dash (`RbacBundle.apart_of_plain`).
-/

namespace Handover

open Kubernetes Yaml

/-! ## Two names around a dash -/

namespace Names

/-- What joins two names in two ways: a part that the one way has behind the dash and the other in
front of it. -/
def Shifted (front back head tail : String) : Prop :=
  ∃ mid : String, head = s!"{front}-{mid}" ∧ back = s!"{mid}-{tail}"

variable {front back head tail : String}

/-- Where there are other dashes it cannot be seen which of them joins two names. -/
theorem around_dash_eq_iff :
    s!"{front}-{back}" = s!"{head}-{tail}" ↔
      (front = head ∧ back = tail) ∨ Shifted front back head tail
        ∨ Shifted head tail front back := by
  have hshifted {a b c d : String} (mid : List Char)
      (hc : c.toList = a.toList ++ '-' :: mid) (hb : b.toList = mid ++ '-' :: d.toList) :
      Shifted a b c d := by
    refine ⟨String.ofList mid, String.toList_injective ?_, String.toList_injective ?_⟩
    · rw [toList_around_dash, String.toList_ofList, hc]
    · rw [toList_around_dash, String.toList_ofList, hb]
  rw [← String.toList_inj, toList_around_dash, toList_around_dash, List.append_eq_append_iff]
  constructor
  · -- one name in front goes on where the other one ends, if only with nothing
    rintro (⟨rest, hfront, hback⟩ | ⟨rest, hfront, hback⟩)
    · rcases rest with _ | ⟨dash, mid⟩
      · rw [List.append_nil] at hfront
        exact .inl ⟨String.toList_injective hfront.symm,
          String.toList_injective (List.cons.inj hback).2⟩
      · rw [List.cons_append, List.cons.injEq] at hback
        obtain ⟨rfl, hback⟩ := hback
        exact .inr (.inl (hshifted mid hfront hback))
    · rcases rest with _ | ⟨dash, mid⟩
      · rw [List.append_nil] at hfront
        exact .inl ⟨String.toList_injective hfront,
          String.toList_injective (List.cons.inj hback).2.symm⟩
      · rw [List.cons_append, List.cons.injEq] at hback
        obtain ⟨rfl, hback⟩ := hback
        exact .inr (.inr (hshifted mid hfront hback))
  · rintro (⟨rfl, rfl⟩ | ⟨mid, rfl, rfl⟩ | ⟨mid, rfl, rfl⟩)
    · exact .inl ⟨[], by simp, rfl⟩
    · exact .inl ⟨'-' :: mid.toList, by simp [toString], by simp [toString]⟩
    · exact .inr ⟨'-' :: mid.toList, by simp [toString], by simp [toString]⟩

theorem length_around_dash (front back : String) :
    (String.toList s!"{front}-{back}").length
      = front.toList.length + back.toList.length + 1 := by
  rw [toList_around_dash, List.length_append, List.length_cons, Nat.add_assoc]

theorem dash_mem_around_dash (front back : String) : '-' ∈ String.toList s!"{front}-{back}" := by
  rw [toList_around_dash]
  exact List.mem_append_right _ List.mem_cons_self

/-- Joined in two ways, the names differ on either side, and a dash stands on either side. -/
theorem Shifted.differ (h : Shifted front back head tail) :
    front ≠ head ∧ back ≠ tail ∧ '-' ∈ head.toList ∧ '-' ∈ back.toList := by
  obtain ⟨mid, hfront, hback⟩ := h
  have hlonger := length_around_dash front mid
  have hshorter := length_around_dash mid tail
  rw [← hfront] at hlonger
  rw [← hback] at hshorter
  refine ⟨?_, ?_, hfront ▸ dash_mem_around_dash front mid, hback ▸ dash_mem_around_dash mid tail⟩
  · rintro rfl
    omega
  · rintro rfl
    omega

end Names

/-! ## Objects that belong to no namespace -/

namespace RbacBundle

variable {ns cluster ns' cluster' account account' : String}

/-- What the platform knows the objects of a bundle by that stand in no namespace: the kind and the
name in each of their documents. -/
def wide (b : RbacBundle) : List (Option Value × Option Value) :=
  (b.documents.filter fun document => (document.path? ["metadata", "namespace"]).isNone).map
    fun document => (document.path? ["kind"], document.path? ["metadata", "name"])

/-- No such object of the one bundle takes the place of one of the other. -/
def Apart (b b' : RbacBundle) : Prop := ∀ key ∈ b.wide, key ∉ b'.wide

/-- What the document of an object says of its kind, its namespace and its name. -/
theorem path?_typed (apiVersion kind : String) (metadata : ObjectMeta) (fields : Fields) :
    (typed apiVersion kind metadata fields).path? ["kind"] = some (.text kind)
      ∧ (typed apiVersion kind metadata fields).path? ["metadata", "namespace"]
        = metadata.ns.map .text
      ∧ (typed apiVersion kind metadata fields).path? ["metadata", "name"]
        = metadata.name.map .text := by
  simp [typed, Value.path?, lookup_record, ObjectMeta.codec, Codec.record, Fields.find?_opt,
    Function.comp_def, Codec.text]

theorem wide_of (cluster ns account : String) :
    (of cluster ns account).wide = ["ClusterRole", "ClusterRoleBinding"].map fun kind =>
      (some (.text kind), some (.text (scopedName ns cluster))) := by
  simp [wide, documents, of, metadata, ServiceAccount.document, Role.document,
    RoleBinding.document, path?_typed]

theorem apart_iff_scopedName :
    (of cluster ns account).Apart (of cluster' ns' account') ↔
      scopedName ns cluster ≠ scopedName ns' cluster' := by
  rw [Apart, wide_of, wide_of]
  simp

/-- Clusters that share a namespace or a name do not get in each other's way, nor do clusters
without dashes on one side. -/
theorem apart_of_plain (hne : ¬(ns = ns' ∧ cluster = cluster'))
    (hplain : ns = ns' ∨ cluster = cluster' ∨ ('-' ∉ ns.toList ∧ '-' ∉ ns'.toList)
      ∨ ('-' ∉ cluster.toList ∧ '-' ∉ cluster'.toList)) :
    (of cluster ns account).Apart (of cluster' ns' account') := by
  refine apart_iff_scopedName.mpr fun heq => ?_
  rcases Names.around_dash_eq_iff.mp heq with hsame | hshifted | hshifted
  · exact hne hsame
  · obtain ⟨hns, hcluster, hdash, hdash'⟩ := hshifted.differ
    rcases hplain with rfl | rfl | ⟨-, hno⟩ | ⟨hno, -⟩ <;> contradiction
  · obtain ⟨hns, hcluster, hdash, hdash'⟩ := hshifted.differ
    rcases hplain with rfl | rfl | ⟨hno, -⟩ | ⟨-, hno⟩ <;> contradiction

end RbacBundle

/-- The permissions that two clusters have on the whole platform are kept apart exactly when their
namespaces and names are not joined alike. The accounts that pods run under do not matter. -/
theorem clusterWide_apart_iff (ns cluster account ns' cluster' account' : String) :
    (RbacBundle.of cluster ns account).Apart (.of cluster' ns' account') ↔
      ¬(ns = ns' ∧ cluster = cluster') ∧ ¬ Names.Shifted ns cluster ns' cluster'
        ∧ ¬ Names.Shifted ns' cluster' ns cluster := by
  rw [RbacBundle.apart_iff_scopedName, ← not_or, ← not_or]
  exact not_congr Names.around_dash_eq_iff

/-- It is not so that different clusters are always kept apart: `db` in the namespace `team-a` and
`a-db` in the namespace `team` have one name on the platform. -/
theorem not_always_apart :
    ¬ ∀ (ns cluster account ns' cluster' account' : String), ¬(ns = ns' ∧ cluster = cluster') →
      (RbacBundle.of cluster ns account).Apart (.of cluster' ns' account') := by
  intro halways
  have hapart := halways "team-a" "db" "db" "team" "a-db" "a-db" (by decide)
  exact RbacBundle.apart_iff_scopedName.mp hapart (by decide)

end Handover
