import Handover.Proofs.Numerals
import Handover.Proofs.OperatorCluster

/-!
# CrdbNodes and their pods

A CrdbNode stands at the place of the number in its name, and the pod at that place is the one that
is named by the number. The names need not be the same: the number in the name of a CrdbNode may be
given by any numeral (`Names.ordinalOf?_eq_some_iff`), while a pod is looked up by the one that is
written for it. So `c-00` is paired with the pod `c-0`. Every CrdbNode has the name of its pod
exactly when each of those that were listed has the name of some node (`read_pairs`).
-/

namespace Handover

open Kubernetes

namespace Names

/-! ## Numbers in names -/

/-- A name as that of the node with a number: behind the cluster and a dash stands a numeral for
it. -/
def IsNumbered (cluster name : String) (i : Nat) : Prop :=
  ∃ numeral, name = s!"{cluster}-{numeral}" ∧ Text.Denotes numeral i

variable {cluster name : String} {i j : Nat}

theorem ordinalOf?_eq_some_iff :
    ordinalOf? cluster name = some i ↔ IsNumbered cluster name i ∧ i ≤ Text.maxWord64 := by
  have hjoined (numeral : String) : s!"{cluster}-{numeral}" = cluster ++ ("-" ++ numeral) := by
    simp [toString, String.append_assoc]
  simp only [ordinalOf?, Option.bind_eq_bind, Option.bind_eq_some_iff, Text.strip?_eq_some_iff,
    Text.readUnsigned_eq_some_iff, IsNumbered, hjoined]
  constructor
  · rintro ⟨rest, hrest, numeral, rfl, hnumeral, hle⟩
    exact ⟨⟨numeral, hrest, hnumeral⟩, hle⟩
  · rintro ⟨⟨numeral, hname, hnumeral⟩, hle⟩
    exact ⟨"-" ++ numeral, hname, numeral, rfl, hnumeral, hle⟩

theorem isNumbered_nodeName (cluster : String) (i : Nat) :
    IsNumbered cluster (nodeName cluster i) i :=
  ⟨toString i, rfl, Text.denotes_toString i⟩

/-- A name holds one number. -/
theorem IsNumbered.unique (hi : IsNumbered cluster name i) (hj : IsNumbered cluster name j) :
    i = j := by
  obtain ⟨numeral, rfl, hnumeral⟩ := hi
  obtain ⟨numeral', hname, hnumeral'⟩ := hj
  rw [← String.toList_inj, toList_around_dash, toList_around_dash, List.append_cancel_left_eq,
    List.cons.injEq, String.toList_inj] at hname
  exact hnumeral.unique (hname.2 ▸ hnumeral')

end Names

namespace Inventory

variable {store : ObjectStore} {ns cluster : String}

/-! ## CrdbNodes in order -/

/-- Of the CrdbNodes that are listed none is left out, and none is there twice. -/
theorem perm_of_orderNodes {listed nodes : List CrdbNode}
    (h : orderNodes ns cluster listed = .ok nodes) : nodes.Perm listed := by
  obtain ⟨numbers, hnumbers, h⟩ := Outcome.bind_eq_ok.mp h
  split at h
  · cases h
  obtain ⟨⟨⟩, -, h⟩ := Outcome.bind_eq_ok.mp h
  obtain rfl := Outcome.pure_eq_ok.mp h
  have hlisted : List.Forall₂ Eq listed (numbers.map (·.2)) :=
    List.forall₂_map_right_iff.mpr ((Outcome.mapM_eq_ok.mp hnumbers).imp fun node e he =>
      (numbered_eq_ok.mp he).2.symm)
  rw [List.forall₂_eq_eq_eq] at hlisted
  rw [hlisted]
  exact (List.mergeSort_perm _ _).map _

end Inventory

/-- Of a cluster under the operator that was read, the pod at a place has the name that the number
of the place gives, and the CrdbNode at that place has a name with a numeral for it. The CrdbNodes
have the names of their pods exactly when no numeral is written in another way. -/
theorem read_pairs {store : ObjectStore} {ns cluster : String} {inventory : Inventory}
    (h : Inventory.read store .crdbNode ns cluster = .ok inventory) :
    ∃ nodes, inventory.controller = .crdbNodes nodes ∧ nodes.length = inventory.pods.length
      ∧ (∀ i pod, inventory.pods[i]? = some pod →
        pod.metadata.nameText = Names.nodeName cluster i)
      ∧ (∀ i node, nodes[i]? = some node → Names.IsNumbered cluster node.name i)
      ∧ ((∀ i node, nodes[i]? = some node → node.name = Names.nodeName cluster i) ↔
        ∀ node ∈ store.crdbNodesOf ns cluster, ∃ i, node.name = Names.nodeName cluster i)
      ∧ ∀ name i, Names.ordinalOf? cluster name = some i ↔
        Names.IsNumbered cluster name i ∧ i ≤ Text.maxWord64 := by
  have hinv := Inventory.isRead h
  obtain ⟨nodes, hnodes, hcontroller⟩ := Outcome.bind_eq_ok.mp hinv.controller
  obtain ⟨hcontroller, hcount⟩ := Prod.mk.inj (Outcome.pure_eq_ok.mp hcontroller)
  have hnumbered {i : Nat} {node : CrdbNode} (hi : nodes[i]? = some node) :
      Names.IsNumbered cluster node.name i :=
    (Names.ordinalOf?_eq_some_iff.mp (Inventory.orderNodes_eq_ok hnodes hi).2).1
  refine ⟨nodes, hcontroller.symm, hcount, fun i pod hi => hinv.nameText hi,
    fun i node hi => hnumbered hi, ?_, fun name i => Names.ordinalOf?_eq_some_iff⟩
  simp only [← (Inventory.perm_of_orderNodes hnodes).mem_iff]
  constructor
  · intro hnamed node hnode
    obtain ⟨i, hi⟩ := List.mem_iff_getElem?.mp hnode
    exact ⟨i, hnamed i node hi⟩
  · intro hnamed i node hi
    obtain ⟨j, hj⟩ := hnamed node (List.mem_of_getElem? hi)
    have hnumber := hnumbered hi
    rw [hj] at hnumber ⊢
    rw [(Names.isNumbered_nodeName cluster j).unique hnumber]

/-- The CrdbNodes of the small cluster have the names of its pods. -/
theorem smallCluster_pairs :
    ∃ inventory nodes, Inventory.read (SmallCluster.operatorStore Names.claimName
        SmallCluster.storeOnly SmallCluster.storeOnly) .crdbNode "n" "c-1" = .ok inventory
      ∧ inventory.controller = .crdbNodes nodes ∧ nodes.length = inventory.pods.length
      ∧ ∀ i node, nodes[i]? = some node → node.name = Names.nodeName "c-1" i := by
  obtain ⟨inventory, -, -, hread, -, -, -⟩ := SmallCluster.exists_observed Names.claimName
    SmallCluster.storeOnly SmallCluster.storeOnly Except.ok (by decide +kernel)
  obtain ⟨nodes, hnodes, hlength, -, -, hnamed, -⟩ := read_pairs hread
  refine ⟨inventory, nodes, hread, hnodes, hlength, hnamed.mpr fun node hnode => ?_⟩
  rw [SmallCluster.crdbNodesOf_operatorStore] at hnode
  rcases List.mem_cons.mp hnode with rfl | hnode
  · exact ⟨0, by decide⟩
  · obtain rfl := List.mem_singleton.mp hnode
    exact ⟨1, by decide⟩

namespace LoneNode

/-- The CrdbNode of the lone node with one more zero in its name. -/
def paddedNode : CrdbNode := { crdbNode {} with metadata.name := some "c-00" }

def paddedStore : ObjectStore := { store [] [] {} with crdbNodes := .ofList [paddedNode] }

end LoneNode

/-- It is not so that a CrdbNode always has the name of its pod: the cluster `c` is read when its
only CrdbNode is `c-00`, which is then paired with the pod `c-0`. -/
theorem not_always_paired :
    ¬ ∀ (store : ObjectStore) (ns cluster : String) (inventory : Inventory),
      Inventory.read store .crdbNode ns cluster = .ok inventory →
      ∃ nodes, inventory.controller = .crdbNodes nodes ∧ ∀ i < inventory.pods.length,
        nodes[i]?.map CrdbNode.name = some (Names.nodeName cluster i)
          ∧ inventory.pods[i]?.map (·.metadata.nameText) = some (Names.nodeName cluster i) := by
  intro halways
  have hread : (Inventory.read LoneNode.paddedStore .crdbNode "n" "c").map
      (fun inventory => (inventory.controller, inventory.pods.length))
      = .ok (.crdbNodes [LoneNode.paddedNode], 1) := by decide +kernel
  obtain ⟨inventory, hinventory, hboth⟩ := Outcome.map_eq_ok.mp hread
  obtain ⟨hcontroller, hpods⟩ := Prod.mk.inj hboth
  obtain ⟨nodes, hnodes, hnamed⟩ := halways _ _ _ _ hinventory
  obtain rfl := Controller.crdbNodes.inj (hnodes.symm.trans hcontroller)
  have hname := (hnamed 0 (by omega)).1
  revert hname
  decide

end Handover
