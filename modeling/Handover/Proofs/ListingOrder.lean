import Handover.Proofs.Pairing
import Mathlib.Data.List.Count
import Mathlib.Data.List.Nodup
import Mathlib.Data.Option.Basic

/-!
# CrdbNodes in whatever order they are listed

A platform lists the CrdbNodes of a cluster in an order of its own, by name perhaps, where `c-10`
stands before `c-2`. They are put in order by the numbers in their names. As these have to be the
numbers from zero on, each once, there is one such order only (`InOrder.unique`), and what can be
wrong with them is a matter of which names are there (`Disordered`). So nothing about the outcome
depends on the listing (`orderNodes_anyOrder`).
-/

namespace Handover

open Kubernetes

namespace Inventory

/-! ## Numbers in order -/

/-- The numbers in the names of CrdbNodes. -/
def ordinals (cluster : String) (nodes : List CrdbNode) : List (Option Nat) :=
  nodes.map fun node => Names.ordinalOf? cluster node.name

/-- The numbers are those from zero on, in this order. -/
def InOrder (cluster : String) (nodes : List CrdbNode) : Prop :=
  ordinals cluster nodes = (List.range nodes.length).map some

instance (cluster : String) (nodes : List CrdbNode) : Decidable (InOrder cluster nodes) :=
  inferInstanceAs (Decidable (_ = _))

/-- The numbers are those from zero on, each once. -/
def Enumerated (cluster : String) (nodes : List CrdbNode) : Prop :=
  (ordinals cluster nodes).Perm ((List.range nodes.length).map some)

variable {ns cluster : String} {listed relisted nodes nodes' : List CrdbNode}

theorem mem_ordinals {o : Option Nat} :
    o ∈ ordinals cluster nodes ↔ ∃ node ∈ nodes, Names.ordinalOf? cluster node.name = o :=
  List.mem_map

theorem inOrder_iff :
    InOrder cluster nodes ↔
      ∀ {i : Nat} {node : CrdbNode}, nodes[i]? = some node →
        Names.ordinalOf? cluster node.name = some i := by
  rw [InOrder, ordinals]
  constructor
  · intro h i node hi
    have hplace := congrArg (·[i]?) h
    obtain ⟨hlt, -⟩ := List.getElem?_eq_some_iff.mp hi
    simpa [List.getElem?_map, hi, List.getElem?_range hlt] using hplace
  · intro h
    refine List.ext_getElem (by simp) fun i hi _ => ?_
    rw [List.length_map] at hi
    simpa using h (List.getElem?_eq_getElem hi)

/-- The same CrdbNodes are in order in one way only. -/
theorem InOrder.unique (h : InOrder cluster nodes) (h' : InOrder cluster nodes')
    (hperm : nodes'.Perm nodes) : nodes' = nodes := by
  refine List.ext_getElem? fun i => ?_
  refine getElem?_eq_of_length_eq hperm.length_eq fun {node node'} hi hi' => ?_
  -- the one at this place in the one list stands at some place in the other, and that is this one
  obtain ⟨j, hj⟩ := List.mem_iff_getElem?.mp (hperm.mem_iff.mp (List.mem_of_getElem? hi'))
  obtain rfl := Option.some.inj ((inOrder_iff.mp h hj).symm.trans (inOrder_iff.mp h' hi'))
  exact Option.some.inj (hj.symm.trans hi)

theorem Enumerated.of_inOrder (h : InOrder cluster nodes) (hperm : nodes.Perm listed) :
    Enumerated cluster listed := by
  have hordinals : (ordinals cluster listed).Perm (ordinals cluster nodes) := (hperm.map _).symm
  rw [h, hperm.length_eq] at hordinals
  exact hordinals

/-! ## What can be wrong -/

/-- What can be wrong with the names of CrdbNodes, and the failure that tells it. -/
inductive Disordered (ns cluster : String) (listed : List CrdbNode) : Failure → Prop
  | empty : listed = [] →
    Disordered ns cluster listed (.notFound "CrdbNode" s!"{Names.qualified ns cluster}-*")
  | misnamed {node : CrdbNode} : node ∈ listed → Names.ordinalOf? cluster node.name = none →
    Disordered ns cluster listed (.validation (.foreignNodeName node.name cluster))
  /-- A number is left out below that of some CrdbNode. -/
  | gap {i j : Nat} {node : CrdbNode} : node ∈ listed →
    Names.ordinalOf? cluster node.name = some j → i < j → some i ∉ ordinals cluster listed →
    Disordered ns cluster listed (.validation (.ordinalGap cluster i node.name))
  /-- A number is that of two CrdbNodes, one of which is taken for the next number. -/
  | shared {i : Nat} {node : CrdbNode} : node ∈ listed →
    Names.ordinalOf? cluster node.name = some i →
    1 < (ordinals cluster listed).count (some i) →
    Disordered ns cluster listed (.validation (.ordinalGap cluster (i + 1) node.name))

theorem Disordered.perm {failure : Failure} (h : Disordered ns cluster listed failure)
    (hperm : relisted.Perm listed) : Disordered ns cluster relisted failure := by
  have hordinals : (ordinals cluster relisted).Perm (ordinals cluster listed) := hperm.map _
  cases h with
  | empty hnil =>
    rw [hnil] at hperm
    exact .empty hperm.eq_nil
  | misnamed hnode hname => exact .misnamed (hperm.mem_iff.mpr hnode) hname
  | gap hnode hname hlt hout =>
    exact .gap (hperm.mem_iff.mpr hnode) hname hlt (mt hordinals.mem_iff.mp hout)
  | shared hnode hname htwice =>
    exact .shared (hperm.mem_iff.mpr hnode) hname (by rwa [hordinals.count_eq])

/-- Nothing is wrong with CrdbNodes whose numbers are those from zero on. -/
theorem Enumerated.not_disordered (h : Enumerated cluster listed) (hne : listed ≠ [])
    {failure : Failure} : ¬ Disordered ns cluster listed failure := by
  intro hwrong
  cases hwrong with
  | empty hnil => exact hne hnil
  | misnamed hnode hname =>
    have hmem := h.mem_iff.mp (mem_ordinals.mpr ⟨_, hnode, hname⟩)
    simp at hmem
  | gap hnode hname hlt hout =>
    have hmem := h.mem_iff.mp (mem_ordinals.mpr ⟨_, hnode, hname⟩)
    simp only [List.mem_map, List.mem_range, Option.some.injEq, exists_eq_right] at hmem
    exact hout (h.mem_iff.mpr (by simp; omega))
  | @shared i _ hnode hname htwice =>
    have hnodup : ((List.range listed.length).map some).Nodup :=
      List.nodup_range.map (Option.some_injective Nat)
    have honce := List.nodup_iff_count_le_one.mp hnodup (some i)
    rw [h.count_eq] at htwice
    omega

/-! ## Putting in order -/

/-- A CrdbNode behind the number in its name. -/
def withOrdinal (cluster : String) (node : CrdbNode) : Nat × CrdbNode :=
  ((Names.ordinalOf? cluster node.name).getD 0, node)

theorem mapM_numbered_eq_ok {numbers : List (Nat × CrdbNode)} :
    listed.mapM (numbered cluster) = .ok numbers ↔
      (∀ node ∈ listed, (Names.ordinalOf? cluster node.name).isSome)
        ∧ numbers = listed.map (withOrdinal cluster) := by
  refine Outcome.mapM_eq_ok_map fun {node e} => ?_
  rw [numbered_eq_ok, withOrdinal, Option.isSome_iff_exists]
  constructor
  · rintro ⟨hordinal, rfl⟩
    exact ⟨⟨_, hordinal⟩, by rw [hordinal, Option.getD_some]⟩
  · rintro ⟨⟨i, hordinal⟩, rfl⟩
    exact ⟨by rw [hordinal, Option.getD_some], rfl⟩

theorem sorted_mergeSort (numbers : List (Nat × CrdbNode)) :
    (numbers.mergeSort fun a b => a.1 ≤ b.1).Pairwise fun a b => a.1 ≤ b.1 := by
  have hsorted : (numbers.mergeSort fun a b => a.1 ≤ b.1).Pairwise
      fun a b => decide (a.1 ≤ b.1) = true :=
    List.pairwise_mergeSort (by simp; omega) (by simp; omega) numbers
  simpa only [decide_eq_true_eq] using hsorted

/-- Numbers that are refused go up by one as far as the first that does not. -/
theorem checkContiguous_eq_error {start : Nat} {numbers : List (Nat × CrdbNode)}
    {failure : Failure} (h : checkContiguous cluster start numbers = .error failure) :
    ∃ before e after, numbers = before ++ e :: after
      ∧ before.map (·.1) = List.range' start before.length ∧ e.1 ≠ start + before.length
      ∧ failure = .validation (.ordinalGap cluster (start + before.length) e.2.name) := by
  induction numbers generalizing start with
  | nil => cases h
  | cons e numbers ih =>
    obtain ⟨ordinal, node⟩ := e
    rw [checkContiguous] at h
    split at h
    · rename_i hfirst
      obtain ⟨before, e, after, rfl, hbefore, he, rfl⟩ := ih h
      refine ⟨(ordinal, node) :: before, e, after, rfl, ?_, ?_, ?_⟩
      · rw [List.map_cons, hbefore, hfirst, List.length_cons, List.range'_succ]
      · rw [List.length_cons]
        omega
      · rw [List.length_cons, Nat.add_assoc, Nat.add_comm 1]
    · rename_i hfirst
      cases h
      exact ⟨[], (ordinal, node), numbers, rfl, rfl, hfirst, rfl⟩

/-- Of numbers that go up, the first one out of step leaves out a number or repeats the one
before it. -/
theorem gap_or_shared {before after : List (Nat × CrdbNode)} {e : Nat × CrdbNode}
    (hsorted : (before ++ e :: after).Pairwise fun a b => a.1 ≤ b.1)
    (hbefore : before.map (·.1) = List.range before.length) (he : e.1 ≠ before.length) :
    (before.length < e.1 ∧ before.length ∉ (before ++ e :: after).map (·.1))
      ∨ before.length = e.1 + 1 ∧ 1 < ((before ++ e :: after).map (·.1)).count e.1 := by
  obtain ⟨-, hafter, hacross⟩ := List.pairwise_append.mp hsorted
  rcases Nat.lt_or_gt_of_ne he with hlow | hhigh
  · right
    -- the number of the last one before is not above that of `e`
    have hlast : before.length - 1 ∈ before.map (·.1) := by
      rw [hbefore, List.mem_range]
      omega
    obtain ⟨b, hb, hnumber⟩ := List.mem_map.mp hlast
    have hle : b.1 ≤ e.1 := hacross b hb e List.mem_cons_self
    have hmem : e.1 ∈ before.map (·.1) := by
      rw [hbefore, List.mem_range]
      omega
    refine ⟨by omega, ?_⟩
    have hone := List.count_pos_iff.mpr hmem
    rw [List.map_append, List.count_append, List.map_cons, List.count_cons_self]
    omega
  · left
    refine ⟨hhigh, fun hmem => ?_⟩
    rw [List.map_append, hbefore, List.mem_append, List.map_cons, List.mem_cons] at hmem
    rcases hmem with hmem | hmem | hmem
    · exact absurd (List.mem_range.mp hmem) (Nat.lt_irrefl _)
    · omega
    · obtain ⟨a, ha, hnumber⟩ := List.mem_map.mp hmem
      have hle := List.rel_of_pairwise_cons hafter ha
      omega

theorem ordinals_eq_map
    (hnamed : ∀ node ∈ listed, (Names.ordinalOf? cluster node.name).isSome) :
    ordinals cluster listed = ((listed.map (withOrdinal cluster)).map (·.1)).map some := by
  rw [ordinals, List.map_map, List.map_map]
  refine List.map_congr_left fun node hnode => ?_
  obtain ⟨i, hi⟩ := Option.isSome_iff_exists.mp (hnamed node hnode)
  simp [withOrdinal, hi]

/-- When the numbers of CrdbNodes, put in order, are out of step, something is wrong with the
names. -/
theorem disordered_of_outOfStep {before after : List (Nat × CrdbNode)} {e : Nat × CrdbNode}
    (hnamed : ∀ node ∈ listed, (Names.ordinalOf? cluster node.name).isSome)
    (hperm : (before ++ e :: after).Perm (listed.map (withOrdinal cluster)))
    (hsorted : (before ++ e :: after).Pairwise fun a b => a.1 ≤ b.1)
    (hbefore : before.map (·.1) = List.range before.length) (he : e.1 ≠ before.length) :
    Disordered ns cluster listed
      (.validation (.ordinalGap cluster before.length e.2.name)) := by
  have hordinals : (ordinals cluster listed).Perm
      (((before ++ e :: after).map (·.1)).map some) := by
    rw [ordinals_eq_map hnamed]
    exact (hperm.symm.map _).map _
  have hmem : e ∈ before ++ e :: after := List.mem_append_right _ List.mem_cons_self
  obtain ⟨node, hnode, rfl⟩ := List.mem_map.mp (hperm.mem_iff.mp hmem)
  obtain ⟨j, hj⟩ := Option.isSome_iff_exists.mp (hnamed node hnode)
  have hnumber : (withOrdinal cluster node).1 = j := by rw [withOrdinal, hj, Option.getD_some]
  rcases gap_or_shared hsorted hbefore he with ⟨hlt, hout⟩ | ⟨hlength, htwice⟩
  · refine .gap hnode hj (hnumber ▸ hlt) fun hmem => hout ?_
    simpa using hordinals.mem_iff.mp hmem
  · rw [hlength, hnumber]
    refine .shared hnode hj ?_
    rwa [hordinals.count_eq, ← hnumber,
      List.count_map_of_injective _ _ (Option.some_injective Nat)]

/-- CrdbNodes that cannot be put in order have names with which something is wrong. -/
theorem disordered_of_error {failure : Failure}
    (h : orderNodes ns cluster listed = .error failure) :
    Disordered ns cluster listed failure := by
  rcases Outcome.bind_eq_error.mp h with h | ⟨numbers, hnumbers, h⟩
  · obtain ⟨node, hnode, hnumbered⟩ := Outcome.exists_of_mapM_eq_error h
    rcases Outcome.bind_eq_error.mp hnumbered with hmissing | ⟨ordinal, -, hdone⟩
    · obtain ⟨hname, rfl⟩ := Outcome.required_eq_error.mp hmissing
      exact .misnamed hnode hname
    · cases hdone
  · obtain ⟨hnamed, rfl⟩ := mapM_numbered_eq_ok.mp hnumbers
    split at h
    · rename_i hempty
      cases h
      exact .empty (by simpa using hempty)
    · rcases Outcome.bind_eq_error.mp h with h | ⟨_, -, hdone⟩
      · obtain ⟨before, e, after, hparts, hbefore, he, rfl⟩ := checkContiguous_eq_error h
        have hsorted := sorted_mergeSort (listed.map (withOrdinal cluster))
        have hperm := List.mergeSort_perm (listed.map (withOrdinal cluster)) fun a b => a.1 ≤ b.1
        rw [hparts] at hsorted hperm
        rw [Nat.zero_add] at he ⊢
        rw [← List.range_eq_range'] at hbefore
        exact disordered_of_outOfStep hnamed hperm hsorted hbefore he
      · cases hdone

theorem inOrder_of_ok (h : orderNodes ns cluster listed = .ok nodes) :
    nodes.Perm listed ∧ InOrder cluster nodes :=
  ⟨perm_of_orderNodes h, inOrder_iff.mpr fun hi => (orderNodes_eq_ok h hi).2⟩

theorem ne_nil_of_ok (h : orderNodes ns cluster listed = .ok nodes) : listed ≠ [] := by
  rintro rfl
  cases h

/-- CrdbNodes are put in order exactly when there is an order in which each stands at the place of
its number. -/
theorem orderNodes_eq_ok_iff :
    orderNodes ns cluster listed = .ok nodes ↔
      listed ≠ [] ∧ nodes.Perm listed ∧ InOrder cluster nodes := by
  refine ⟨fun h => ⟨ne_nil_of_ok h, inOrder_of_ok h⟩, fun ⟨hne, hperm, horder⟩ => ?_⟩
  rcases hordered : orderNodes ns cluster listed with failure | nodes'
  · have hright : Enumerated cluster listed := .of_inOrder horder hperm
    exact absurd (disordered_of_error hordered) (hright.not_disordered hne)
  · obtain ⟨hperm', horder'⟩ := inOrder_of_ok hordered
    rw [horder.unique horder' (hperm'.trans hperm.symm)]

theorem exists_orderNodes_iff :
    (∃ nodes, orderNodes ns cluster listed = .ok nodes) ↔
      listed ≠ [] ∧ Enumerated cluster listed := by
  constructor
  · rintro ⟨nodes, h⟩
    obtain ⟨hperm, horder⟩ := inOrder_of_ok h
    exact ⟨ne_nil_of_ok h, .of_inOrder horder hperm⟩
  · rintro ⟨hne, henumerated⟩
    rcases hordered : orderNodes ns cluster listed with failure | nodes
    · exact absurd (disordered_of_error hordered) (henumerated.not_disordered hne)
    · exact ⟨nodes, rfl⟩

/-- CrdbNodes are refused exactly when something is wrong with them. -/
theorem exists_orderNodes_error_iff :
    (∃ failure, orderNodes ns cluster listed = .error failure) ↔
      ∃ failure, Disordered ns cluster listed failure := by
  constructor
  · rintro ⟨failure, h⟩
    exact ⟨failure, disordered_of_error h⟩
  · rintro ⟨failure, hwrong⟩
    rcases hordered : orderNodes ns cluster listed with failure' | nodes
    · exact ⟨failure', rfl⟩
    · obtain ⟨hne, henumerated⟩ := exists_orderNodes_iff.mp ⟨nodes, hordered⟩
      exact absurd hwrong (henumerated.not_disordered hne)

theorem readController_crdbNode_eq_ok {store : ObjectStore} :
    readController store .crdbNode ns cluster = .ok (.crdbNodes nodes, nodes.length) ↔
      orderNodes ns cluster (store.crdbNodesOf ns cluster) = .ok nodes := by
  simp only [readController, Outcome.bind_eq_ok, Outcome.pure_eq_ok]
  constructor
  · rintro ⟨nodes', h, heq⟩
    cases heq
    exact h
  · intro h
    exact ⟨nodes, h, rfl⟩

/-- However the CrdbNodes of a cluster are listed, they are put in order when there are any and
their numbers are those from zero on, each once. The result is then the same for every listing: the
CrdbNodes that were listed, in the order of their numbers. Otherwise there is a failure for every
listing, which tells of something that is wrong with them. -/
theorem orderNodes_anyOrder (ns cluster : String) {listed relisted : List CrdbNode}
    (hlisted : relisted.Perm listed) :
    ((∃ nodes, orderNodes ns cluster relisted = .ok nodes) ↔
        listed ≠ [] ∧ Enumerated cluster listed)
      ∧ (∀ nodes, orderNodes ns cluster relisted = .ok nodes ↔
        orderNodes ns cluster listed = .ok nodes)
      ∧ (∀ nodes, orderNodes ns cluster listed = .ok nodes →
        nodes.Perm listed ∧ InOrder cluster nodes)
      ∧ ((∃ failure, orderNodes ns cluster relisted = .error failure) ↔
        ∃ failure, Disordered ns cluster listed failure)
      ∧ (∀ failure, orderNodes ns cluster relisted = .error failure →
        Disordered ns cluster listed failure)
      ∧ ∀ store : ObjectStore, store.crdbNodesOf ns cluster = relisted → ∀ nodes,
        readController store .crdbNode ns cluster = .ok (.crdbNodes nodes, nodes.length) ↔
          orderNodes ns cluster listed = .ok nodes := by
  have hsame (nodes : List CrdbNode) : orderNodes ns cluster relisted = .ok nodes ↔
      orderNodes ns cluster listed = .ok nodes := by
    rw [orderNodes_eq_ok_iff, orderNodes_eq_ok_iff, hlisted.congr_right nodes, ne_eq, ne_eq,
      ← List.length_eq_zero_iff, ← List.length_eq_zero_iff, hlisted.length_eq]
  have hwrong : (∃ failure, Disordered ns cluster relisted failure) ↔
      ∃ failure, Disordered ns cluster listed failure :=
    exists_congr fun _ => ⟨fun h => h.perm hlisted.symm, fun h => h.perm hlisted⟩
  refine ⟨?_, hsame, fun nodes => inOrder_of_ok, exists_orderNodes_error_iff.trans hwrong,
    fun failure h => (disordered_of_error h).perm hlisted.symm, fun store hstore nodes => ?_⟩
  · simp only [hsame, exists_orderNodes_iff]
  · rw [readController_crdbNode_eq_ok, hstore, hsame]

end Inventory

/-! ## Eleven nodes -/

namespace ElevenNodes

/-- A CrdbNode of the cluster `c`. -/
def crdbNode (name : String) : CrdbNode where
  metadata := {
    name := some name
    ns := some "n"
    labels := some (.of [(Names.clusterLabel, "c")]) }

/-- The CrdbNodes in the order of their numbers. -/
def byNumber : List CrdbNode :=
  ["c-0", "c-1", "c-2", "c-3", "c-4", "c-5", "c-6", "c-7", "c-8", "c-9", "c-10"].map crdbNode

/-- The CrdbNodes as a store lists them, by name. -/
def byName : List CrdbNode :=
  ["c-0", "c-1", "c-10", "c-2", "c-3", "c-4", "c-5", "c-6", "c-7", "c-8", "c-9"].map crdbNode

def store : ObjectStore where
  crdbNodes := .ofList byNumber

end ElevenNodes

/-- A store lists `c-10` before `c-2`, and the CrdbNodes are read with `c-10` at the end. -/
theorem elevenNodes_anyOrder :
    ElevenNodes.byName.Perm ElevenNodes.byNumber
      ∧ ElevenNodes.store.crdbNodesOf "n" "c" = ElevenNodes.byName
      ∧ Inventory.orderNodes "n" "c" ElevenNodes.byName = .ok ElevenNodes.byNumber
      ∧ Inventory.readController ElevenNodes.store .crdbNode "n" "c"
        = .ok (.crdbNodes ElevenNodes.byNumber, 11) := by
  have hlisted : ElevenNodes.byName.Perm ElevenNodes.byNumber :=
    List.Perm.map _ (by decide)
  have hstore : ElevenNodes.store.crdbNodesOf "n" "c" = ElevenNodes.byName := by decide +kernel
  have horder : Inventory.InOrder "c" ElevenNodes.byNumber := by decide +kernel
  obtain ⟨-, hsame, -, -, -, hread⟩ := Inventory.orderNodes_anyOrder "n" "c" hlisted
  have hordered : Inventory.orderNodes "n" "c" ElevenNodes.byNumber = .ok ElevenNodes.byNumber :=
    Inventory.orderNodes_eq_ok_iff.mpr ⟨by simp [ElevenNodes.byNumber], .refl _, horder⟩
  exact ⟨hlisted, hstore, (hsame _).mpr hordered, (hread _ hstore _).mpr hordered⟩

end Handover
