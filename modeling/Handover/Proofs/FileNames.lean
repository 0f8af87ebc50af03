import Handover.Proofs.CrdbNodes
import Handover.Proofs.Emission
import Handover.Proofs.LegacyChart
import Handover.Proofs.StorageIdentity
import Mathlib.Data.List.Nodup

/-!
# Names of emitted files

The files of a run are one for each node, named after its number, and a few with names of their
own. No two of them have the same name, and none is named like a file that is about to be renamed,
so they can be written side by side.
-/

namespace Handover

open Emission

/-! ## Numbered names -/

/-- A name with the number of a node, as the files of nodes are named. -/
def numberedName (stem : String) (index : Nat) : String := s!"{stem}-{index}.yaml"

theorem toList_numberedName (stem : String) (index : Nat) :
    (numberedName stem index).toList
      = stem.toList ++ '-' :: (Nat.toDigits 10 index ++ ".yaml".toList) := by
  simp [numberedName, toString, Nat.repr]

theorem numberedName_injective {stem : String} {i j : Nat}
    (h : numberedName stem i = numberedName stem j) : i = j := by
  have hlist := congrArg String.toList h
  rw [toList_numberedName, toList_numberedName] at hlist
  have hdigits := List.append_cancel_right (List.cons.inj (List.append_cancel_left hlist)).2
  exact Names.numeral_injective hdigits

/-- A text of some length without slashes and null characters can be the name of a file. -/
theorem Path.isPlain_of_chars {name : String} (hlong : 2 < name.toList.length)
    (hslash : '/' ∉ name.toList) (hnull : '\x00' ∉ name.toList) : Path.IsPlain name := by
  have hne {short : String} (hshort : short.toList.length ≤ 2) : name ≠ short := by
    rintro rfl
    omega
  exact ⟨hne (by decide), hne (by decide), hne (by decide), hslash, hnull⟩

theorem notMem_toDigits {c : Char} (hc : c.isDigit = false) (n : Nat) :
    c ∉ Nat.toDigits 10 n := fun h => by
  rw [Nat.isDigit_of_mem_toDigits (by omega) (by omega) h] at hc
  cases hc

theorem isPlain_numberedName {stem : String} (hslash : '/' ∉ stem.toList)
    (hnull : '\x00' ∉ stem.toList) (index : Nat) : Path.IsPlain (numberedName stem index) := by
  refine Path.isPlain_of_chars ?_ ?_ ?_
  · rw [toList_numberedName]
    simp
    omega
  · rw [toList_numberedName]
    simp [hslash, notMem_toDigits (c := '/') (by decide)]
  · rw [toList_numberedName]
    simp [hnull, notMem_toDigits (c := '\x00') (by decide)]

/-- Numbered names and others can stand side by side when the others start differently. -/
theorem sideBySide_numbered {stem : String} {indices : List Nat} {own : List String}
    (hslash : '/' ∉ stem.toList) (hnull : '\x00' ∉ stem.toList) (hne : stem.toList ≠ [])
    (hdot : stem.toList.head? ≠ some '.') (hindices : indices.Nodup) (hown : SideBySide own)
    (hapart : ∀ name ∈ own, ¬ stem.toList <+: name.toList) :
    SideBySide (indices.map (numberedName stem) ++ own) where
  plain name hname := by
    rcases List.mem_append.mp hname with hname | hname
    · obtain ⟨index, -, rfl⟩ := List.mem_map.mp hname
      exact isPlain_numberedName hslash hnull index
    · exact hown.plain name hname
  no_dot name hname := by
    rcases List.mem_append.mp hname with hname | hname
    · obtain ⟨index, -, rfl⟩ := List.mem_map.mp hname
      rwa [toList_numberedName, List.head?_append_of_ne_nil _ hne]
    · exact hown.no_dot name hname
  distinct := by
    refine List.nodup_append.mpr ⟨?_, hown.distinct, ?_⟩
    · exact hindices.map fun _ _ heq => numberedName_injective heq
    · rintro name hname name' hname' rfl
      obtain ⟨index, -, rfl⟩ := List.mem_map.mp hname
      refine hapart _ hname' ?_
      rw [toList_numberedName]
      exact List.prefix_append _ _

/-- A file is the only one of its name among files side by side. -/
theorem filter_name_of_mem {files : List ManifestFile} {file : ManifestFile}
    (hnames : SideBySide (files.map (·.name))) (hfile : file ∈ files) :
    files.filter (·.name = file.name) = [file] := by
  have hsome : (files.find? (·.name = file.name)).isSome :=
    List.find?_isSome.mpr ⟨file, hfile, decide_eq_true rfl⟩
  obtain ⟨found, hfound⟩ := Option.isSome_iff_exists.mp hsome
  have hname : found.name = file.name := by simpa using List.find?_some hfound
  obtain rfl := List.inj_on_of_nodup_map hnames.distinct (List.mem_of_find?_eq_some hfound) hfile
    hname
  rw [filter_eq_toList_find? hnames.distinct, hfound]
  rfl

/-! ## The files of a run -/

variable {store : ObjectStore} {source : Source} {ns cluster : String} {inventory : Inventory}
  {o : ClusterObservation} {trust : TrustMap} {target : Target} {files : List ManifestFile}

theorem names_crdbNodes (built : List Kubernetes.CrdbNode) (chart : Yaml.Value) :
    (CrdbNodes.manifests built chart).map (·.name)
      = (List.range built.length).map (numberedName "crdbnode") ++ ["values.yaml"] := by
  have hnodes : (built.zipIdx.map fun e => CrdbNodes.nodeFile e.2 e.1).map (·.name)
      = (built.zipIdx.map Prod.snd).map (numberedName "crdbnode") := by
    rw [List.map_map, List.map_map]
    rfl
  rw [List.zipIdx_map_snd, ← List.range_eq_range'] at hnodes
  rw [CrdbNodes.manifests, List.map_append]
  exact congrArg (· ++ ["values.yaml"]) hnodes

theorem names_legacyChart (o : ClusterObservation) (chart : Yaml.Value) :
    (LegacyChart.manifests o chart).map (·.name)
      = (o.nodes.map (·.index)).map (numberedName "persistentvolumeclaim")
        ++ ["values.yaml", "public-service.yaml", "rbac.yaml"] := by
  rw [LegacyChart.manifests, List.map_append, List.map_map, List.map_map]
  rfl

/-- Whatever the numbers of nodes are, there is one file of values. -/
theorem filter_legacyChart (o : ClusterObservation) (chart : Yaml.Value) :
    (LegacyChart.manifests o chart).filter (·.name = "values.yaml")
      = [⟨"values.yaml", [chart]⟩] := by
  have hclaims : (o.nodes.map (LegacyChart.adoptedFile o)).filter (·.name = "values.yaml")
      = [] := by
    refine List.filter_eq_nil_iff.mpr fun file hfile => ?_
    obtain ⟨n, -, rfl⟩ := List.mem_map.mp hfile
    have hne : numberedName "persistentvolumeclaim" n.index ≠ "values.yaml" := by
      intro heq
      have hhead := congrArg (fun name => name.toList.head?) heq
      rw [toList_numberedName] at hhead
      exact absurd hhead (by simp)
    exact fun heq => hne (of_decide_eq_true heq)
  rw [LegacyChart.manifests, List.filter_append, hclaims]
  rfl

/-- Nodes are numbered from zero on. -/
theorem indices_of_observe (hread : Inventory.read store source ns cluster = .ok inventory)
    (hobserve : observe inventory = .ok o) :
    o.nodes.map (·.index) = List.range o.nodes.length := by
  refine List.ext_getElem? fun i => ?_
  rw [List.getElem?_map]
  rcases hn : o.nodes[i]? with _ | n
  · rw [List.getElem?_eq_none (by simpa using List.getElem?_eq_none_iff.mp hn)]
    rfl
  · obtain ⟨hlt, -⟩ := List.getElem?_eq_some_iff.mp hn
    obtain ⟨hindex, -⟩ := storage_of_observe hread hobserve hn
    rw [List.getElem?_range hlt, Option.map_some, hindex]

/-- The files of a run can be written side by side, whichever way it goes. -/
theorem sideBySide_of_synthesize {direction : Direction}
    (hread : Inventory.read store source ns cluster = .ok inventory)
    (hobserve : observe inventory = .ok o)
    (hfiles : synthesize direction o trust target = .ok files) :
    SideBySide (files.map (·.name)) := by
  have hplain {own : List String}
      (h : ∀ name ∈ own, 2 < name.toList.length ∧ '/' ∉ name.toList ∧ '\x00' ∉ name.toList) :
      ∀ name ∈ own, Path.IsPlain name := fun name hname =>
    Path.isPlain_of_chars (h name hname).1 (h name hname).2.1 (h name hname).2.2
  cases direction with
  | toCrdbNodes =>
    obtain ⟨-, hfiles⟩ := synthesize_toCrdbNodes_eq_ok.mp hfiles
    obtain ⟨built, chart, -, -, rfl⟩ := CrdbNodes.files_eq_ok.mp hfiles
    rw [names_crdbNodes]
    exact sideBySide_numbered (by decide) (by decide) (by decide) (by decide) List.nodup_range
      ⟨hplain (by decide), by decide, by decide⟩ (by decide)
  | toStatefulSet =>
    obtain ⟨-, hfiles⟩ := synthesize_toStatefulSet_eq_ok.mp hfiles
    obtain ⟨-, -, chart, -, rfl⟩ := LegacyChart.files_eq_ok.mp hfiles
    rw [names_legacyChart, indices_of_observe hread hobserve]
    exact sideBySide_numbered (by decide) (by decide) (by decide) (by decide) List.nodup_range
      ⟨hplain (by decide), by decide, by decide⟩ (by decide)

end Handover
