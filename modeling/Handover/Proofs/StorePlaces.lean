import Handover.Proofs.Housing
import Mathlib.Data.Fintype.Card

/-!
# Where stores lie

Stores are given on the command line and volumes are mounted in the pod, and only one direction
looks at both: a CrdbNode is not built unless every store lies on a volume of its own
(`NodeObservation.housed_of_dataStores`). The values of a StatefulSet count the volumes whatever
stores are given, and are refused only for the fields of stores
(`LegacyChart.exists_storeValues_iff`). So they declare as many stores as are given when the stores
are housed so, which nothing on this way makes sure of (`synthesize_toStatefulSet_stores`).
-/

namespace Handover

open Kubernetes Manifest Yaml

/-! ## Stores on volumes -/

/-- Every store that is given lies on a volume for stores, and no two are on the same one. -/
def NodeObservation.Housed (n : NodeObservation) : Prop := Nonempty (Housing n)

theorem NodeObservation.Housed.length_le {n : NodeObservation} (h : n.Housed) :
    n.flags.stores.length ≤ n.dataStorage.length := by
  obtain ⟨a⟩ := h
  simpa using Fintype.card_le_of_injective a.place a.injective

/-- A CrdbNode is built only for a node whose stores are housed. -/
theorem NodeObservation.housed_of_dataStores {n : NodeObservation} {stores : List DataStore}
    (h : CrdbNodes.dataStores n = .ok stores) : n.Housed := by
  obtain ⟨a, -, -⟩ := CrdbNodes.exists_housing h
  exact ⟨a⟩

namespace LegacyChart

/-! ## Stores in values -/

/-- The key of a field of a store. -/
def fieldKey (option : String) : String := ((Text.cutFirst? '=' option).getD (option, "")).1

/-- Stores can be put into values: all have the same fields besides their paths, and these are
fields that values have. -/
structure StoresAlike (stores : List String) : Prop where
  same : ∀ s ∈ stores, ∀ s' ∈ stores, StartCommand.storeOptions s = StartCommand.storeOptions s'
  known : ∀ s ∈ stores, ∀ option ∈ StartCommand.storeOptions s,
    fieldKey option = "attrs" ∨ fieldKey option = "size"

theorem sharedOptions_eq_ok {index : Nat} {all : List (List String)} {options : List String} :
    sharedOptions index all = .ok options ↔
      (∀ own ∈ all, own = options) ∧ (all = [] → options = []) := by
  induction all with
  | nil => simp [sharedOptions, eq_comm]
  | cons seen all ih =>
    cases all with
    | nil => simp [sharedOptions]
    | cons next rest =>
      rw [sharedOptions]
      by_cases hsame : seen = next
      · rw [if_pos hsame, ih, hsame]
        simp
      · rw [if_neg hsame]
        constructor
        · nofun
        · rintro ⟨hall, -⟩
          exact absurd ((hall seen (by simp)).trans (hall next (by simp)).symm) hsame

theorem exists_putStoreField {index : Nat} {fields : Entries} {option : String} :
    (∃ fields', putStoreField index fields option = .ok fields')
      ↔ fieldKey option = "attrs" ∨ fieldKey option = "size" := by
  show (∃ fields', (if fieldKey option = "attrs" ∨ fieldKey option = "size" then _ else _)
    = Except.ok fields') ↔ _
  by_cases hkey : fieldKey option = "attrs" ∨ fieldKey option = "size"
  · rw [if_pos hkey]
    exact iff_of_true ⟨_, rfl⟩ hkey
  · rw [if_neg hkey]
    exact iff_of_false nofun hkey

theorem exists_putStoreFields {index : Nat} {fields : Entries} {options : List String} :
    (∃ fields', options.foldlM (putStoreField index) fields = .ok fields')
      ↔ ∀ option ∈ options, fieldKey option = "attrs" ∨ fieldKey option = "size" := by
  induction options generalizing fields with
  | nil => exact iff_of_true ⟨fields, rfl⟩ nofun
  | cons option options ih =>
    simp only [List.forall_mem_cons, List.foldlM_cons, Outcome.bind_eq_ok]
    constructor
    · rintro ⟨fields', fields₁, hput, hrest⟩
      exact ⟨exists_putStoreField.mp ⟨fields₁, hput⟩, ih.mp ⟨fields', hrest⟩⟩
    · rintro ⟨hoption, hrest⟩
      obtain ⟨fields₁, hput⟩ := exists_putStoreField.mpr hoption
      obtain ⟨fields', hrest⟩ := ih.mpr hrest
      exact ⟨fields', fields₁, hput, hrest⟩

/-- Where the stores of a node lie is no matter for its values. -/
theorem exists_storeValues_iff {n : NodeObservation} :
    (∃ stores, storeValues n = .ok stores) ↔ StoresAlike n.flags.stores := by
  have hparts : (∃ stores, storeValues n = .ok stores) ↔
      ∃ options, sharedOptions n.index (n.flags.stores.map StartCommand.storeOptions) = .ok options
        ∧ ∃ fields, options.foldlM (putStoreField n.index) [] = .ok fields := by
    simp only [storeValues, Outcome.bind_eq_ok]
    constructor
    · rintro ⟨stores, options, hoptions, fields, hfields, -⟩
      exact ⟨options, hoptions, fields, hfields⟩
    · rintro ⟨options, hoptions, fields, hfields⟩
      by_cases hblock : 1 < n.dataStorage.length ∨ fields ≠ []
      · exact ⟨_, options, hoptions, fields, hfields, if_pos hblock⟩
      · exact ⟨_, options, hoptions, fields, hfields, if_neg hblock⟩
  rw [hparts]
  simp only [exists_putStoreFields, sharedOptions_eq_ok, List.forall_mem_map]
  constructor
  · rintro ⟨options, ⟨hall, -⟩, hknown⟩
    refine ⟨fun s hs s' hs' => (hall s hs).trans (hall s' hs').symm, fun s hs => ?_⟩
    rw [hall s hs]
    exact hknown
  · rintro ⟨hsame, hknown⟩
    cases hstores : n.flags.stores with
    | nil => exact ⟨[], ⟨nofun, fun _ => rfl⟩, nofun⟩
    | cons s stores =>
      rw [hstores] at hsame hknown
      have hs : s ∈ s :: stores := List.mem_cons_self
      exact ⟨StartCommand.storeOptions s, ⟨fun s' hs' => hsame s' hs' s hs, nofun⟩, hknown s hs⟩

/-- The number of stores that values declare for each pod; without a count it is one. -/
def storesDeclared (chart : Value) : Nat :=
  match chart.path? ["conf", "store", "count"] with
  | some (.number (.int count)) => count.toNat
  | _ => 1

theorem storesDeclared_of_values {o : ClusterObservation} {trust : TrustMap} {target : Target}
    {chart : Value} (h : values o trust target = .ok chart) :
    storesDeclared chart = max o.first.dataStorage.length 1 := by
  obtain ⟨hcount, -⟩ := values_volumes h
  rw [storesDeclared, hcount]
  by_cases hmany : 1 < o.first.dataStorage.length
  · rw [if_pos hmany, Nat.max_eq_left hmany.le]
    exact Int.toNat_natCast _
  · rw [if_neg hmany, Nat.max_eq_right (Nat.le_of_not_lt hmany)]

end LegacyChart

/-- Failover among stores is written only for a node that is given several. -/
theorem WalFailover.several_of_written {mode : WalFailover} {value : Option String}
    {storeCount : Nat} (hmode : classify value storeCount = .ok mode)
    (hwritten : mode.written? = some "among-stores") : 1 < storeCount := by
  have hagain := classify_written hmode
  rw [hwritten] at hagain
  change (if 1 < storeCount then Except.ok _ else Except.error _) = _ at hagain
  split at hagain
  · assumption
  · cases hagain

/-- A cluster becomes a StatefulSet wherever its stores lie: it is refused for its flags, the names
of its claims and the fields of its stores. The values declare as many stores as the first node has
volumes for them. Of stores that are housed as a CrdbNode asks for, none is lost then, and failover
among them stays possible. -/
theorem synthesize_toStatefulSet_stores {inventory : Inventory} {o : ClusterObservation}
    (hobserve : observe inventory = .ok o) (trust : TrustMap) (target : Target) :
    (∀ n ∈ o.nodes, ∀ stores, CrdbNodes.dataStores n = .ok stores → n.Housed)
      ∧ ((∃ files, synthesize .toStatefulSet o trust target = .ok files) ↔
        o.source = .crdbNode ∧ (∀ n ∈ o.nodes, n.flags = o.first.flags)
          ∧ (∀ n ∈ o.nodes, LegacyChart.Adoptable n)
          ∧ LegacyChart.StoresAlike o.first.flags.stores)
      ∧ ∀ files, synthesize .toStatefulSet o trust target = .ok files →
        ∃ chart, files.filter (·.name = "values.yaml") = [⟨"values.yaml", [chart]⟩]
          ∧ LegacyChart.storesDeclared chart = max o.first.dataStorage.length 1
          ∧ (o.first.Housed →
            ∀ n ∈ o.nodes, n.flags.stores.length ≤ LegacyChart.storesDeclared chart)
          ∧ (chart.path? ["conf", "wal-failover", "value"] = some (.text "among-stores") →
            1 < o.first.flags.stores.length
              ∧ (o.first.Housed → 1 < LegacyChart.storesDeclared chart)) := by
  refine ⟨fun n _ stores hstores => NodeObservation.housed_of_dataStores hstores, ?_,
    fun files hfiles => ?_⟩
  · rw [exists_toStatefulSet, LegacyChart.exists_storeValues_iff]
  · obtain ⟨-, hfiles⟩ := synthesize_toStatefulSet_eq_ok.mp hfiles
    obtain ⟨hflags, -, chart, hchart, rfl⟩ := LegacyChart.files_eq_ok.mp hfiles
    have hdeclared := LegacyChart.storesDeclared_of_values hchart
    have hfit (hhoused : o.first.Housed) :
        o.first.flags.stores.length ≤ LegacyChart.storesDeclared chart := by
      rw [hdeclared]
      exact hhoused.length_le.trans (Nat.le_max_left _ _)
    refine ⟨chart, filter_legacyChart o chart, hdeclared, fun hhoused => ?_, fun hvalue => ?_⟩
    · rw [ClusterObservation.nodes, List.forall_mem_cons]
      refine ⟨hfit hhoused, fun n hn => ?_⟩
      rw [hflags n hn]
      exact hfit hhoused
    · obtain ⟨-, hmode, -⟩ := failover_of_observe hobserve List.mem_cons_self
      rw [LegacyChart.failover_of_values hchart] at hvalue
      obtain ⟨written, hwritten, htext⟩ := Option.map_eq_some_iff.mp hvalue
      obtain rfl := Value.text.inj htext
      have hmany := WalFailover.several_of_written hmode hwritten
      have hseveral : 1 < o.first.flags.stores.length := by
        rw [StartFlags.storeCount] at hmany
        omega
      exact ⟨hseveral, fun hhoused => hseveral.trans_le (hfit hhoused)⟩

/-- A node with two stores on two volumes keeps both. -/
theorem loneNode_stores :
    ∃ inventory o files chart, observe inventory = .ok o
      ∧ synthesize .toStatefulSet o {} {} = .ok files
      ∧ o.first.flags.stores = ["/d/a", "path=/e"]
      ∧ files.filter (·.name = "values.yaml") = [⟨"values.yaml", [chart]⟩]
      ∧ 2 ≤ LegacyChart.storesDeclared chart := by
  obtain ⟨inventory, o, -, -, hobserve, hmade⟩ := LoneNode.exists_observed
    ["start", "--store=/d/a", "--store=path=/e", "--wal-failover=among-stores"] ["d", "e"]
    { dataStores := [{ name := "d" }, { name := "e" }] }
    (fun o => do
      let _ ← CrdbNodes.dataStores o.first
      let _ ← synthesize .toStatefulSet o {} {}
      return o.first.flags.stores)
    ["/d/a", "path=/e"] (by decide +kernel)
  obtain ⟨stores, hstores, hmade⟩ := Outcome.bind_eq_ok.mp hmade
  obtain ⟨files, hfiles, hmade⟩ := Outcome.bind_eq_ok.mp hmade
  have hgiven : o.first.flags.stores = ["/d/a", "path=/e"] := Outcome.pure_eq_ok.mp hmade
  obtain ⟨hhoused, -, hvalues⟩ := synthesize_toStatefulSet_stores hobserve {} {}
  obtain ⟨chart, hfile, -, hfit, -⟩ := hvalues files hfiles
  have hfirst := hfit (hhoused o.first List.mem_cons_self stores hstores) o.first
    List.mem_cons_self
  rw [hgiven] at hfirst
  exact ⟨inventory, o, files, chart, hobserve, hfiles, hgiven, hfile, hfirst⟩

/-- It is not so that no store is lost on the way to a StatefulSet: two stores of a node may lie on
one volume, and with failover among stores the values declare one store. -/
theorem not_always_housed :
    ¬ ∀ (store : ObjectStore) (ns cluster : String) (inventory : Inventory)
        (o : ClusterObservation) (trust : TrustMap) (target : Target) (files : List ManifestFile)
        (chart : Value),
      Inventory.read store .crdbNode ns cluster = .ok inventory → observe inventory = .ok o →
      synthesize .toStatefulSet o trust target = .ok files →
      files.filter (·.name = "values.yaml") = [⟨"values.yaml", [chart]⟩] →
      (∀ n ∈ o.nodes, n.Housed)
        ∧ (∀ n ∈ o.nodes, n.flags.stores.length ≤ LegacyChart.storesDeclared chart)
        ∧ (chart.path? ["conf", "wal-failover", "value"] = some (.text "among-stores") →
          1 < LegacyChart.storesDeclared chart) := by
  intro halways
  obtain ⟨inventory, o, hread, -, hobserve, hmade⟩ := LoneNode.exists_observed
    ["start", "--store=/d/a", "--store=/d/b", "--wal-failover=among-stores"] ["d"]
    SmallCluster.storeOnly
    (fun o => do
      let _ ← synthesize .toStatefulSet o {} {}
      return (o.first.flags.stores.length, o.first.dataStorage.length))
    (2, 1) (by decide +kernel)
  obtain ⟨files, hfiles, hmade⟩ := Outcome.bind_eq_ok.mp hmade
  obtain ⟨hgiven, hvolumes⟩ := Prod.mk.inj (Outcome.pure_eq_ok.mp hmade)
  obtain ⟨-, hlegacy⟩ := synthesize_toStatefulSet_eq_ok.mp hfiles
  obtain ⟨-, -, chart, hchart, rfl⟩ := LegacyChart.files_eq_ok.mp hlegacy
  obtain ⟨-, hfit, -⟩ := halways _ _ _ _ _ _ _ _ chart hread hobserve hfiles
    (filter_legacyChart o chart)
  have hfirst := hfit o.first List.mem_cons_self
  rw [LegacyChart.storesDeclared_of_values hchart] at hfirst
  omega

end Handover
