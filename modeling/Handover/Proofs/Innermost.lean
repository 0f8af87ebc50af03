import Handover.Proofs.Housing
import Mathlib.Data.Finset.Max
import Mathlib.Data.Fintype.Basic
import Mathlib.Data.List.FinRange

/-!
# Stores on the innermost volume

Volumes may be mounted below each other. Then a store lies on several, and its files are on the
innermost. Taking stores in turn asks only whether a store lies on a volume, so the order of volumes
decides: an outer volume that comes first takes a store whose files are on the inner one, and the
store that is built for the inner volume stands at the same path (`not_always_innermost`).

What is taken in turn is one housing only (`Housing.TakesFirst.place_eq`), so it can be told from
the volumes and stores alone when every store comes to its innermost volume: no two stores have the
same one, and an outer volume that is listed before it goes to an earlier store
(`Housing.TakesFirst.innermost_iff`). Then the stores that are built are at distinct paths. That
these are absolute is another matter: a store at the root loses its slash (`dataStores_innermost`).
-/

namespace Handover

open Kubernetes

namespace NodeObservation

variable {n : NodeObservation}

/-- The path of a store of the command line, without the slashes at its end. -/
def givenPath (n : NodeObservation) (k : Fin n.flags.stores.length) : String :=
  (CrdbNodes.storeGiven (n.store k)).path

/-- The files of a store are on a volume: it lies on no volume that is mounted further in. -/
def IsInnermost (n : NodeObservation) (k : Fin n.flags.stores.length)
    (i : Fin n.dataStorage.length) : Prop :=
  LiesOn (n.store k) (n.volume i)
    ∧ ∀ j, LiesOn (n.store k) (n.volume j) →
      Storage.isWithin (n.mountPath i) (n.mountPath j) = true

instance (k : Fin n.flags.stores.length) (i : Fin n.dataStorage.length) :
    Decidable (n.IsInnermost k i) :=
  inferInstanceAs (Decidable (_ ∧ _))

/-- Volumes and stores are listed so that every store comes to its innermost volume. -/
structure WellListed (n : NodeObservation) : Prop where
  /-- No two stores have the same innermost volume. -/
  own : ∀ j k i, n.IsInnermost j i → n.IsInnermost k i → j = k
  /-- An outer volume that is listed before is the innermost one of an earlier store. -/
  outer : ∀ k i i', n.IsInnermost k i → LiesOn (n.store k) (n.volume i') → i' < i →
    ∃ j < k, n.IsInnermost j i'

/-- No two volumes of a node are mounted at one place. Their mount paths differ by more than slashes
at their ends. -/
def DistinctFolders (n : NodeObservation) : Prop :=
  Function.Injective fun i => Text.dropSlashes (n.mountPath i)

theorem DistinctFolders.eq_of_isWithin (h : n.DistinctFolders) {i j : Fin n.dataStorage.length}
    (hij : Storage.isWithin (n.mountPath i) (n.mountPath j) = true)
    (hji : Storage.isWithin (n.mountPath j) (n.mountPath i) = true) : i = j :=
  h (Storage.dropSlashes_eq_of_isWithin hij hji)

theorem IsInnermost.unique {k : Fin n.flags.stores.length} {i j : Fin n.dataStorage.length}
    (hdistinct : n.DistinctFolders) (hi : n.IsInnermost k i) (hj : n.IsInnermost k j) : i = j :=
  hdistinct.eq_of_isWithin (hi.2 j hj.1) (hj.2 i hi.1)

/-- A store that lies on a volume has an innermost one: of those that it lies on, the one with the
longest mount path. -/
theorem exists_isInnermost {k : Fin n.flags.stores.length} {i : Fin n.dataStorage.length}
    (h : LiesOn (n.store k) (n.volume i)) : ∃ i, n.IsInnermost k i := by
  let above : Finset (Fin n.dataStorage.length) :=
    Finset.univ.filter fun i => LiesOn (n.store k) (n.volume i)
  have hmem {i : Fin n.dataStorage.length} :
      i ∈ above ↔ LiesOn (n.store k) (n.volume i) := by simp [above]
  obtain ⟨i, hi, hmax⟩ := Finset.exists_max_image above
    (fun i => (Storage.folder (n.mountPath i)).length) ⟨i, hmem.mpr h⟩
  have hlies := hmem.mp hi
  refine ⟨i, hlies, fun j hj => ?_⟩
  rcases Storage.isWithin_or_isWithin (liesOn_iff.mp hlies).2 (liesOn_iff.mp hj).2 with hin | hin
  · exact hin
  · have hle := hmax j (hmem.mpr hj)
    have hfolder : Storage.folder (n.mountPath i) = Storage.folder (n.mountPath j) :=
      (Storage.isWithin_iff.mp hin).eq_of_length_le hle
    rw [Storage.isWithin_iff, hfolder]

end NodeObservation

namespace Housing

variable {n : NodeObservation} {a b : Housing n}

/-- Every store is on the innermost of the volumes that it lies on. -/
def Innermost (a : Housing n) : Prop := ∀ k, n.IsInnermost k (a.place k)

/-! ## Taking in turn -/

/-- Volume by volume there is no choice. -/
theorem TakesFirst.place_of_before (ha : a.TakesFirst) (hb : b.TakesFirst)
    {i : Fin n.dataStorage.length}
    (hbefore : ∀ i' < i, ∀ k, a.place k = i' ↔ b.place k = i') {k : Fin n.flags.stores.length}
    (hk : a.place k = i) : b.place k = i := by
  have hnot {j} (hj : b.place j < i) : a.place j < i :=
    ((hbefore _ hj j).mpr rfl).trans_lt hj
  rcases hb k i (hk ▸ a.liesOn k) with hle | ⟨j, hlt, hj⟩
  · exact hle.eq_of_not_lt fun hlt => (hnot hlt).ne hk
  · -- an earlier store in its place would have been taken in the other housing, too
    exfalso
    have hne {j'} (hj' : j' < k) : a.place j' ≠ i := fun heq =>
      hj'.ne (a.injective (heq.trans hk.symm))
    rcases ha j i (hj ▸ b.liesOn j) with hle | ⟨j', hlt', hj'⟩
    · have hlt'' : a.place j < i := hle.lt_of_ne (hne hlt)
      exact hlt''.ne ((hbefore _ hlt'' j).mp rfl ▸ hj)
    · exact hne (hlt'.trans hlt) hj'

theorem TakesFirst.place_eq (ha : a.TakesFirst) (hb : b.TakesFirst) : a.place = b.place := by
  have hsame (i : Fin n.dataStorage.length) : ∀ k, a.place k = i ↔ b.place k = i := by
    induction i using WellFoundedLT.induction with
    | ind i ih =>
      exact fun k => ⟨ha.place_of_before hb ih,
        hb.place_of_before ha fun i' hlt k => (ih i' hlt k).symm⟩
  funext k
  exact ((hsame _ k).mp rfl).symm

/-- Whether every store comes to its innermost volume is a matter of how both are listed. -/
theorem TakesFirst.innermost_iff (ha : a.TakesFirst) (hdistinct : n.DistinctFolders) :
    a.Innermost ↔ n.WellListed := by
  constructor
  · intro hin
    have hplace {k i} (hi : n.IsInnermost k i) : a.place k = i := (hin k).unique hdistinct hi
    constructor
    case own =>
      intro j k i hj hk
      exact a.injective ((hplace hj).trans (hplace hk).symm)
    case outer =>
      intro k i i' hi hlies hlt
      rcases ha k i' hlies with hle | ⟨j, hjk, rfl⟩
      · exact absurd hlt (hplace hi ▸ hle).not_gt
      · exact ⟨j, hjk, hin j⟩
  · intro hlisted
    choose place hplace using fun k => NodeObservation.exists_isInnermost (a.liesOn k)
    let b : Housing n := {
      place
      injective := fun j k heq => hlisted.own j k _ (heq ▸ hplace j) (hplace k)
      liesOn := fun k => (hplace k).1 }
    have hb : b.TakesFirst := by
      intro k i hlies
      by_cases hle : place k ≤ i
      · exact .inl hle
      · obtain ⟨j, hlt, hj⟩ := hlisted.outer k _ i (hplace k) hlies (not_le.mp hle)
        exact .inr ⟨j, hlt, (hplace j).unique hdistinct hj⟩
    intro k
    rw [ha.place_eq hb]
    exact hplace k

/-! ## Paths -/

/-- The paths at which stores stand when they are housed. -/
structure Paths (a : Housing n) (path : Fin n.dataStorage.length → String) : Prop where
  taken : ∀ k, path (a.place k) = n.givenPath k
  free : ∀ i, (∀ k, a.place k ≠ i) → path i = n.mountPath i

/-- The stores that are built stand at these paths, volume by volume. -/
theorem Furnishes.exists_paths {stores : List DataStore} (h : a.Furnishes stores)
    (hlength : stores.length = n.dataStorage.length) :
    ∃ path, a.Paths path ∧ stores.map (·.path) = List.ofFn (fun i => some (path i)) := by
  have hbuilt (i : Fin n.dataStorage.length) :
      ∃ path s, stores[(i : Nat)]? = some s ∧ s.path = some path
        ∧ (∀ k, a.place k = i → path = n.givenPath k)
        ∧ ((∀ k, a.place k ≠ i) → path = n.mountPath i) := by
    by_cases htaken : ∃ k, a.place k = i
    · obtain ⟨k, rfl⟩ := htaken
      obtain ⟨path, s, hpath, hs, hspath, -⟩ := h.taken k
      refine ⟨_, s, hs, hspath, fun k' hk' => ?_, fun hfree => absurd rfl (hfree k)⟩
      obtain rfl := a.injective hk'
      rw [NodeObservation.givenPath, CrdbNodes.storeGiven_eq hpath]
    · obtain ⟨s, hs, hspath, -⟩ := h.free i fun k hk => htaken ⟨k, hk⟩
      exact ⟨_, s, hs, hspath, fun k hk => absurd ⟨k, hk⟩ htaken, fun _ => rfl⟩
  choose path s hs hpath htaken hfree using hbuilt
  refine ⟨path, ⟨fun k => htaken _ k rfl, hfree⟩, List.ext_getElem (by simpa using hlength) ?_⟩
  intro i hi hi'
  obtain ⟨_, hget⟩ := List.getElem?_eq_some_iff.mp (hs ⟨i, by simpa using hi'⟩)
  rw [List.getElem_map, hget, hpath, List.getElem_ofFn]

variable {path : Fin n.dataStorage.length → String}

/-- Where every mount path is absolute, a store stands at no absolute path only when it is given at
the root. -/
theorem Paths.absolute_iff (h : a.Paths path)
    (habsolute : ∀ i, Text.startsWith (n.mountPath i) "/" = true) :
    (∀ i, Text.startsWith (path i) "/" = true) ↔ ∀ k, n.givenPath k ≠ "" := by
  constructor
  · intro hall k hempty
    have hk := hall (a.place k)
    rw [h.taken, hempty] at hk
    cases hk
  · intro hne i
    by_cases htaken : ∃ k, a.place k = i
    · obtain ⟨k, rfl⟩ := htaken
      obtain ⟨given, hgiven, habs, -⟩ := a.liesOn k
      have hpath : n.givenPath k = Text.dropSlashes given := by
        rw [NodeObservation.givenPath, CrdbNodes.storeGiven_eq hgiven]
      rw [h.taken, hpath]
      exact Text.startsWith_dropSlashes habs (hpath ▸ hne k)
    · rw [h.free i fun k hk => htaken ⟨k, hk⟩]
      exact habsolute i

/-- Where mount paths are distinct, two stores stand at one path only when both are given there, or
when a volume that no store takes is mounted at the path of one. -/
theorem Paths.injective_iff (h : a.Paths path) (hdistinct : Function.Injective n.mountPath) :
    Function.Injective path ↔ Function.Injective n.givenPath
      ∧ ∀ i, (∀ k, a.place k ≠ i) → ∀ k, n.givenPath k ≠ n.mountPath i := by
  constructor
  · refine fun hinj => ⟨fun j k heq => ?_, fun i hi k heq => hi k (hinj ?_)⟩
    · rw [← h.taken j, ← h.taken k] at heq
      exact a.injective (hinj heq)
    · rw [h.taken, heq, h.free i hi]
  · rintro ⟨hgiven, hfree⟩ i j heq
    by_cases hi : ∃ k, a.place k = i <;> by_cases hj : ∃ k, a.place k = j
    · obtain ⟨k, rfl⟩ := hi
      obtain ⟨k', rfl⟩ := hj
      rw [h.taken, h.taken] at heq
      rw [hgiven heq]
    · obtain ⟨k, rfl⟩ := hi
      have hj' : ∀ k, a.place k ≠ j := fun k hk => hj ⟨k, hk⟩
      rw [h.taken, h.free j hj'] at heq
      exact absurd heq (hfree j hj' k)
    · obtain ⟨k, rfl⟩ := hj
      have hi' : ∀ k, a.place k ≠ i := fun k hk => hi ⟨k, hk⟩
      rw [h.taken, h.free i hi'] at heq
      exact absurd heq.symm (hfree i hi' k)
    · rw [h.free i fun k hk => hi ⟨k, hk⟩, h.free j fun k hk => hj ⟨k, hk⟩] at heq
      exact hdistinct heq

/-- A store lies on the volumes that another one lies on whose path is the same. -/
theorem liesOn_of_givenPath {j k : Fin n.flags.stores.length} {i : Fin n.dataStorage.length}
    (hpath : n.givenPath j = n.givenPath k) (habsolute : HasAbsolutePath (n.store j))
    (h : LiesOn (n.store k) (n.volume i)) :
    LiesOn (n.store j) (n.volume i) := by
  have hwithin : Storage.isWithin (n.givenPath k) (n.mountPath i) = true := (liesOn_iff.mp h).2
  rw [← hpath] at hwithin
  exact liesOn_iff.mpr ⟨habsolute, hwithin⟩

/-- Stores on their innermost volumes stand at paths of their own. -/
theorem Paths.injective_of_innermost (h : a.Paths path) (hdistinct : n.DistinctFolders)
    (hin : a.Innermost) : Function.Injective path := by
  have hmounts : Function.Injective n.mountPath := fun i j heq =>
    hdistinct (congrArg Text.dropSlashes heq)
  refine (h.injective_iff hmounts).mpr ⟨fun j k heq => ?_, fun i hi k heq => hi k ?_⟩
  · have habsolute (k) := (a.liesOn k).hasAbsolutePath
    have hj := (hin j).2 _ (liesOn_of_givenPath heq (habsolute j) (a.liesOn k))
    have hk := (hin k).2 _ (liesOn_of_givenPath heq.symm (habsolute k) (a.liesOn j))
    exact a.injective (hdistinct.eq_of_isWithin hj hk)
  · -- a store at a mount path lies on that volume, and its own is mounted no further in
    have hlies : LiesOn (n.store k) (n.volume i) := by
      refine liesOn_iff.mpr ⟨(a.liesOn k).hasAbsolutePath, ?_⟩
      show Storage.isWithin (n.givenPath k) (n.mountPath i) = true
      rw [heq]
      exact Storage.isWithin_refl _
    have hout : Storage.isWithin (n.mountPath i) (n.mountPath (a.place k)) = true := by
      rw [← heq]
      exact (liesOn_iff.mp (a.liesOn k)).2
    exact hdistinct.eq_of_isWithin ((hin k).2 i hlies) hout

end Housing

namespace CrdbNodes

/-- What is known of paths and innermost volumes when stores are built for volumes with distinct
absolute mount paths. All stores stand at absolute paths just when none is given at the root. They
stand at distinct paths just when they are given so and no volume without a store is mounted at the
path of a store that was taken for another volume. Where the mount paths are of distinct folders,
every store comes to its innermost volume just when no two have the same one and an outer volume
that is listed before goes to an earlier store of its own, and then the paths are distinct. -/
theorem dataStores_innermost {n : NodeObservation} {stores : List DataStore}
    (habsolute : ∀ i, Text.startsWith (n.mountPath i) "/" = true)
    (hdistinct : Function.Injective n.mountPath) (h : dataStores n = .ok stores) :
    ∃ a : Housing n, a.TakesFirst ∧ a.Furnishes stores
      ∧ ((∀ s ∈ stores, ∃ path ∈ s.path, Text.startsWith path "/" = true) ↔
        ∀ k, n.givenPath k ≠ "")
      ∧ ((stores.map (·.path)).Nodup ↔ Function.Injective n.givenPath
        ∧ ∀ i, (∀ k, a.place k ≠ i) → ∀ k, n.givenPath k ≠ n.mountPath i)
      ∧ (n.DistinctFolders → (a.Innermost ↔ n.WellListed)
        ∧ (a.Innermost → (stores.map (·.path)).Nodup)) := by
  obtain ⟨a, hfirst, hfurnishes⟩ := exists_housing h
  have hlength : stores.length = n.dataStorage.length := by
    have hnames := dataStores_map_eq (fun _ _ _ => rfl : ∀ d path options,
      (dataStore d path options).name = d.name) h
    simpa using congrArg List.length hnames
  obtain ⟨path, hpaths, hall⟩ := hfurnishes.exists_paths hlength
  have hnodup : (stores.map (·.path)).Nodup ↔ Function.Injective path := by
    rw [hall, List.nodup_ofFn]
    exact (Option.some_injective String).of_comp_iff path
  have habs : (∀ s ∈ stores, ∃ path ∈ s.path, Text.startsWith path "/" = true) ↔
      ∀ i, Text.startsWith (path i) "/" = true := by
    have hmap : (∀ s ∈ stores, ∃ path ∈ s.path, Text.startsWith path "/" = true) ↔
        ∀ o ∈ stores.map (·.path), ∃ path ∈ o, Text.startsWith path "/" = true := by
      simp only [List.forall_mem_map]
    rw [hmap, hall, List.forall_mem_ofFn_iff]
    simp
  refine ⟨a, hfirst, hfurnishes, habs.trans (hpaths.absolute_iff habsolute),
    hnodup.trans (hpaths.injective_iff hdistinct), fun hfolders => ⟨hfirst.innermost_iff hfolders,
      fun hin => hnodup.mpr (hpaths.injective_of_innermost hfolders hin)⟩⟩

end CrdbNodes

/-- Volumes that are listed from the inside out have their own stores on them. -/
theorem mounted_innermost :
    ∃ n stores, n = NodeObservation.mounted [("e", "/d/e"), ("d", "/d")] ["/d", "path=/d/e/x/"]
      ∧ CrdbNodes.dataStores n = .ok stores
      ∧ (∃ a : Housing n, a.Furnishes stores ∧ a.Innermost)
      ∧ (∀ s ∈ stores, ∃ path ∈ s.path, Text.startsWith path "/" = true)
      ∧ (stores.map (·.path)).Nodup := by
  let n := NodeObservation.mounted [("e", "/d/e"), ("d", "/d")] ["/d", "path=/d/e/x/"]
  obtain ⟨stores, hstores⟩ : ∃ stores, CrdbNodes.dataStores n = .ok stores :=
    Outcome.exists_of_isOk (by decide +kernel)
  have hfolders : n.DistinctFolders := by
    unfold NodeObservation.DistinctFolders
    decide +kernel
  have hlisted : n.WellListed := ⟨by decide +kernel, by decide +kernel⟩
  obtain ⟨a, -, hfurnishes, habsolute, -, hin⟩ :=
    CrdbNodes.dataStores_innermost (n := n) (by decide +kernel) (by decide +kernel) hstores
  have hinnermost := (hin hfolders).1.mpr hlisted
  exact ⟨n, stores, rfl, hstores, ⟨a, hfurnishes, hinnermost⟩,
    habsolute.mpr (by decide +kernel), (hin hfolders).2 hinnermost⟩

/-- It is not so that stores stand at distinct paths, each on its innermost volume. An outer volume
that is listed first takes the store of the inner one, and the two stand at one path. -/
theorem not_always_innermost :
    ¬ ∀ (n : NodeObservation) (stores : List DataStore),
      (∀ i, Text.startsWith (n.mountPath i) "/" = true) → Function.Injective n.mountPath →
      CrdbNodes.dataStores n = .ok stores →
      (∀ s ∈ stores, ∃ path ∈ s.path, Text.startsWith path "/" = true)
        ∧ (stores.map (·.path)).Nodup
        ∧ ∃ a : Housing n, a.Furnishes stores ∧ a.Innermost := by
  intro halways
  let n := NodeObservation.mounted [("d", "/d"), ("e", "/d/e")] ["/d/e"]
  have hpaths : (CrdbNodes.dataStores n).map (·.map (·.path))
      = .ok [some "/d/e", some "/d/e"] := by decide +kernel
  obtain ⟨stores, hstores, hpaths⟩ := Outcome.map_eq_ok.mp hpaths
  obtain ⟨-, hnodup, -⟩ := halways n stores (by decide +kernel) (by decide +kernel) hstores
  rw [hpaths] at hnodup
  exact absurd hnodup (by decide)

end Handover
