import Handover.Manifest.Normal
import Mathlib.Data.List.Nodup

/-!
# What a normal document lacks

Normalizing takes entries out of the mappings of a document and moves the last entry of a mapping
into each gap, so what is left of the document has its entries in another order. What goes is said
here without that order (`Manifest.withoutArtifacts`): null creation times at any depth, then a
status that is empty without them, then the metadata that a server keeps. Normalizing leaves the
rest and nothing else, and it leaves a normal document as it is to the last entry
(`Manifest.normalize_exact`): where nothing is to be taken out, no gap opens
(`Manifest.dropNullTimestamps_eq_self`).
-/

namespace Handover

namespace Yaml.Value

/-! ## Values up to order -/

mutual

/-- The second value is the first with the entries of its mappings in another order, where the
mappings are reached through the items of sequences and the values of entries. -/
inductive Reorders : Value → Value → Prop
  | refl (v : Value) : Reorders v v
  | seq {items items' : List Value} (h : ReordersItems items items') :
    Reorders (.seq items) (.seq items')
  | map {entries inner entries' : List (Value × Value)} (h : ReordersEntries entries inner)
    (hperm : inner.Perm entries') : Reorders (.map entries) (.map entries')

/-- Item by item. -/
inductive ReordersItems : List Value → List Value → Prop
  | nil : ReordersItems [] []
  | cons {v v' : Value} {vs vs' : List Value} (h : Reorders v v') (hs : ReordersItems vs vs') :
    ReordersItems (v :: vs) (v' :: vs')

/-- Entry by entry, each under its key. -/
inductive ReordersEntries : List (Value × Value) → List (Value × Value) → Prop
  | nil : ReordersEntries [] []
  | cons {k v v' : Value} {es es' : List (Value × Value)} (h : Reorders v v')
    (hs : ReordersEntries es es') : ReordersEntries ((k, v) :: es) ((k, v') :: es')

end

theorem ReordersEntries.refl : ∀ es : List (Value × Value), ReordersEntries es es
  | [] => .nil
  | (_, v) :: es => .cons (.refl v) (.refl es)

/-- A mapping up to order is a mapping. -/
theorem Reorders.exists_entries {es : List (Value × Value)} {v' : Value}
    (h : Reorders (.map es) v') :
    ∃ inner es', v' = .map es' ∧ ReordersEntries es inner ∧ inner.Perm es' := by
  cases h with
  | refl => exact ⟨es, es, rfl, .refl es, .refl es⟩
  | map h hperm => exact ⟨_, _, rfl, h, hperm⟩

/-- The entries that satisfy a condition stay entry by entry, when the condition does not see the
order within their values. -/
theorem ReordersEntries.filter {p : Value × Value → Bool}
    (hp : ∀ {k v v'}, Reorders v v' → p (k, v') = p (k, v)) :
    ∀ {es es' : List (Value × Value)}, ReordersEntries es es' →
      ReordersEntries (es.filter p) (es'.filter p)
  | _, _, .nil => .nil
  | _, _, .cons (k := k) (v := v) h hs => by
    rw [List.filter_cons, List.filter_cons, hp h]
    cases p (k, v) with
    | true => exact .cons h (hs.filter hp)
    | false => exact hs.filter hp

/-- Steps on the values of entries that agree up to order give entries that do. -/
theorem ReordersEntries.map {f g : Value × Value → Value} :
    ∀ {es es' : List (Value × Value)}, ReordersEntries es es' →
      (∀ {k v v'}, (k, v') ∈ es' → Reorders v v' → Reorders (f (k, v)) (g (k, v'))) →
      ReordersEntries (es.map fun e => (e.1, f e)) (es'.map fun e => (e.1, g e))
  | _, _, .nil, _ => .nil
  | _, _, .cons h hs, hf =>
    .cons (hf List.mem_cons_self h) (hs.map fun hmem => hf (List.mem_cons_of_mem _ hmem))

/-! ## Texts as keys -/

/-- No two entries have the same text as their key. -/
def TextsApart (entries : List (Value × Value)) : Prop :=
  entries.Pairwise fun a b => ∀ s, a.1 = .text s → b.1 ≠ .text s

variable {entries entries' : List (Value × Value)}

theorem textsApart_of_pairwise (h : entries.Pairwise fun a b => agrees a.1 b.1 = false) :
    TextsApart entries :=
  h.imp fun hab s ha hb => by simp [ha, hb, agrees] at hab

theorem TextsApart.perm (h : TextsApart entries) (hperm : entries.Perm entries') :
    TextsApart entries' :=
  hperm.pairwise h fun hab s hb ha => hab s ha hb

theorem TextsApart.filter (h : TextsApart entries) {p : Value × Value → Bool} :
    TextsApart (entries.filter p) :=
  List.Pairwise.filter p h

theorem TextsApart.map_value (h : TextsApart entries) (f : Value × Value → Value) :
    TextsApart (entries.map fun e => (e.1, f e)) :=
  List.pairwise_map.mpr h

/-- A text is looked up in the only entry that has it as its key. -/
theorem TextsApart.lookup_eq (h : TextsApart entries) {key : String} {v : Value}
    (hmem : (.text key, v) ∈ entries) : lookup key entries = some v := by
  induction entries with
  | nil => cases hmem
  | cons e es ih =>
    obtain ⟨he, hes⟩ := List.pairwise_cons.mp h
    rcases List.mem_cons.mp hmem with rfl | hmem
    · simp [lookup]
    · have hne : e.1 ≠ .text key := fun hkey => he _ hmem key hkey rfl
      have hrest := ih hes hmem
      rw [lookup] at hrest ⊢
      rw [List.find?_cons_of_neg (by simpa using hne), hrest]

theorem mem_of_lookup {key : String} {v : Value} (h : lookup key entries = some v) :
    (.text key, v) ∈ entries := by
  obtain ⟨e, he, rfl⟩ := Option.map_eq_some_iff.mp h
  have hkey : e.1 = .text key := by simpa using List.find?_some he
  exact hkey ▸ List.mem_of_find?_eq_some he

end Yaml.Value

namespace Manifest

open Yaml Value

/-! ## Taking an entry out -/

section

variable {key : String} {entries : List (Value × Value)}

/-- The last entry in front of the others. -/
theorem perm_lastFirst (entries : List (Value × Value)) :
    (match entries.getLast? with
      | some last => last :: entries.dropLast
      | none => []).Perm entries := by
  rcases List.eq_nil_or_concat entries with rfl | ⟨before, last, rfl⟩
  · exact .nil
  · simp only [List.concat_eq_append, List.getLast?_concat, List.dropLast_concat]
    exact (List.perm_append_singleton last before).symm

/-- The entries but the one at a key. -/
theorem perm_swapRemove (h : TextsApart entries) :
    (swapRemove key entries).Perm (entries.filter fun e => e.1 ≠ .text key) := by
  induction entries with
  | nil => exact .nil
  | cons e es ih =>
    obtain ⟨he, hes⟩ := List.pairwise_cons.mp h
    rw [swapRemove]
    by_cases hkey : e.1 = .text key
    · have hrest : es.filter (fun e => e.1 ≠ .text key) = es :=
        List.filter_eq_self.mpr fun b hb => by simpa using he b hb key hkey
      rw [if_pos hkey, List.filter_cons_of_neg (by simpa using hkey), hrest]
      exact perm_lastFirst es
    · rw [if_neg hkey, List.filter_cons_of_pos (by simpa using hkey)]
      exact (ih hes).cons e

/-- Nothing moves when there is nothing to take out. -/
theorem swapRemove_eq_self (h : ∀ e ∈ entries, e.1 ≠ .text key) :
    swapRemove key entries = entries := by
  induction entries with
  | nil => rfl
  | cons e es ih =>
    obtain ⟨he, hes⟩ := List.forall_mem_cons.mp h
    rw [swapRemove, if_neg he, ih hes]

/-- Whether an entry is one at a key whose value satisfies a condition. -/
def holdsAt (key : String) (p : Value → Bool) (e : Value × Value) : Bool :=
  e.1 = .text key && p e.2

/-- The entries but the one at a key, when its value satisfies a condition. -/
theorem perm_swapRemove_if {p : Value → Bool} (h : TextsApart entries) :
    (match Value.lookup key entries with
      | some v => if p v then swapRemove key entries else entries
      | none => entries).Perm (entries.filter fun e => !holdsAt key p e) := by
  cases hlookup : Value.lookup key entries with
  | none =>
    refine .of_eq (List.filter_eq_self.mpr fun e he => ?_).symm
    have hkey : e.1 ≠ .text key := fun hkey => by
      have hmem : (.text key, e.2) ∈ entries := hkey ▸ he
      rw [h.lookup_eq hmem] at hlookup
      cases hlookup
    simp [holdsAt, hkey]
  | some v =>
    have honly {e : Value × Value} (he : e ∈ entries) (hkey : e.1 = .text key) : e.2 = v := by
      have hmem : (.text key, e.2) ∈ entries := hkey ▸ he
      rw [h.lookup_eq hmem] at hlookup
      exact Option.some.inj hlookup
    dsimp only
    split
    · rename_i hv
      refine (perm_swapRemove h).trans (.of_eq (List.filter_congr fun e he => ?_))
      by_cases hkey : e.1 = .text key
      · simp [holdsAt, hkey, honly he hkey, hv]
      · simp [holdsAt, hkey]
    · rename_i hv
      refine .of_eq (List.filter_eq_self.mpr fun e he => ?_).symm
      by_cases hkey : e.1 = .text key
      · simp [holdsAt, hkey, honly he hkey, hv]
      · simp [holdsAt, hkey]

/-- Nothing moves when no value at the key satisfies the condition. -/
theorem swapRemove_if_eq_self {p : Value → Bool}
    (h : ∀ e ∈ entries, holdsAt key p e = false) :
    (match Value.lookup key entries with
      | some v => if p v then swapRemove key entries else entries
      | none => entries) = entries := by
  cases hlookup : Value.lookup key entries with
  | none => rfl
  | some v =>
    have hv : p v = false := by simpa [holdsAt] using h _ (mem_of_lookup hlookup)
    simp [hv]

end

/-! ## Null creation times -/

/-- Whether an entry is a creation time that is null, below any tags. -/
def isNullTime : Value × Value → Bool := holdsAt creationTimestamp Value.isNull

mutual

/-- The value without null creation times in the mappings that are reached through the items of
sequences and the values of entries; all else is in its place. -/
def withoutNullTimes : Value → Value
  | .seq items => .seq (withoutNullTimesInItems items)
  | .map entries => .map (withoutNullTimesInEntries entries)
  | v => v

def withoutNullTimesInItems : List Value → List Value
  | [] => []
  | v :: vs => withoutNullTimes v :: withoutNullTimesInItems vs

def withoutNullTimesInEntries : List (Value × Value) → List (Value × Value)
  | [] => []
  | (k, v) :: es =>
    if isNullTime (k, v) then withoutNullTimesInEntries es
    else (k, withoutNullTimes v) :: withoutNullTimesInEntries es

end

mutual

/-- No mapping that is reached holds a null creation time. -/
def Tidy : Value → Prop
  | .seq items => TidyItems items
  | .map entries => TidyEntries entries
  | _ => True

def TidyItems : List Value → Prop
  | [] => True
  | v :: vs => Tidy v ∧ TidyItems vs

def TidyEntries : List (Value × Value) → Prop
  | [] => True
  | (k, v) :: es => (isNullTime (k, v) = false ∧ Tidy v) ∧ TidyEntries es

end

theorem tidyEntries_iff {entries : List (Value × Value)} :
    TidyEntries entries ↔ ∀ e ∈ entries, isNullTime e = false ∧ Tidy e.2 := by
  induction entries with
  | nil => simp [TidyEntries]
  | cons e es ih => rw [TidyEntries, List.forall_mem_cons, ih]

theorem isNull_dropNullTimestamps (v : Value) : (dropNullTimestamps v).isNull = v.isNull := by
  cases v <;> rfl

theorem dropInEntries_eq (entries : List (Value × Value)) :
    dropInEntries entries = entries.map fun e => (e.1, dropNullTimestamps e.2) := by
  induction entries with
  | nil => rfl
  | cons e es ih => rw [dropInEntries, ih, List.map_cons]

theorem perm_dropNullTimestamp {entries : List (Value × Value)} (h : TextsApart entries) :
    (dropNullTimestamp entries).Perm (entries.filter fun e => !isNullTime e) :=
  perm_swapRemove_if h

theorem textsApart_dropInEntries {entries : List (Value × Value)}
    (h : entries.Pairwise fun a b => agrees a.1 b.1 = false) :
    TextsApart (dropInEntries entries) := by
  rw [dropInEntries_eq]
  exact (textsApart_of_pairwise h).map_value _

mutual

/-- Removal from the end of a mapping is removal in place, up to order. -/
theorem reorders_dropNullTimestamps :
    ∀ v : Value, v.DistinctKeys → Reorders (withoutNullTimes v) (dropNullTimestamps v)
  | .null, _ => .refl _
  | .bool _, _ => .refl _
  | .number _, _ => .refl _
  | .text _, _ => .refl _
  | .tagged _ _, _ => .refl _
  | .seq items, h => .seq (reorders_dropInItems items h)
  | .map entries, h =>
    .map (reorders_dropInEntries entries h.2)
      (perm_dropNullTimestamp (textsApart_dropInEntries h.1)).symm

theorem reorders_dropInItems :
    ∀ vs : List Value, DistinctKeysItems vs →
      ReordersItems (withoutNullTimesInItems vs) (dropInItems vs)
  | [], _ => .nil
  | v :: vs, h => .cons (reorders_dropNullTimestamps v h.1) (reorders_dropInItems vs h.2)

theorem reorders_dropInEntries :
    ∀ es : List (Value × Value), DistinctKeysEntries es →
      ReordersEntries (withoutNullTimesInEntries es)
        ((dropInEntries es).filter fun e => !isNullTime e)
  | [], _ => .nil
  | (k, v) :: es, h => by
    have hnull : isNullTime (k, dropNullTimestamps v) = isNullTime (k, v) := by
      rw [isNullTime, holdsAt, isNull_dropNullTimestamps, holdsAt]
    rw [withoutNullTimesInEntries, dropInEntries, List.filter_cons, hnull]
    cases isNullTime (k, v) with
    | true => exact reorders_dropInEntries es h.2.2
    | false => exact .cons (reorders_dropNullTimestamps v h.2.1) (reorders_dropInEntries es h.2.2)

end

mutual

theorem tidy_dropNullTimestamps : ∀ v : Value, v.DistinctKeys → Tidy (dropNullTimestamps v)
  | .null, _ => trivial
  | .bool _, _ => trivial
  | .number _, _ => trivial
  | .text _, _ => trivial
  | .tagged _ _, _ => trivial
  | .seq items, h => tidyItems_dropInItems items h
  | .map entries, h => by
    rw [dropNullTimestamps, Tidy, tidyEntries_iff]
    intro e he
    obtain ⟨he, hnull⟩ := List.mem_filter.mp
      ((perm_dropNullTimestamp (textsApart_dropInEntries h.1)).mem_iff.mp he)
    exact ⟨by simpa using hnull, tidy_dropInEntries entries h.2 e he⟩

theorem tidyItems_dropInItems :
    ∀ vs : List Value, DistinctKeysItems vs → TidyItems (dropInItems vs)
  | [], _ => trivial
  | v :: vs, h => ⟨tidy_dropNullTimestamps v h.1, tidyItems_dropInItems vs h.2⟩

theorem tidy_dropInEntries :
    ∀ es : List (Value × Value), DistinctKeysEntries es → ∀ e ∈ dropInEntries es, Tidy e.2
  | [], _, _, he => nomatch he
  | (_, v) :: es, h, e, he => by
    rcases List.mem_cons.mp he with rfl | he
    · exact tidy_dropNullTimestamps v h.2.1
    · exact tidy_dropInEntries es h.2.2 e he

end

mutual

/-- A value without null creation times stays as it is to the last entry. -/
theorem dropNullTimestamps_eq_self : ∀ v : Value, Tidy v → dropNullTimestamps v = v
  | .null, _ => rfl
  | .bool _, _ => rfl
  | .number _, _ => rfl
  | .text _, _ => rfl
  | .tagged _ _, _ => rfl
  | .seq items, h => congrArg Value.seq (dropInItems_eq_self items h)
  | .map entries, h => by
    rw [dropNullTimestamps, dropInEntries_eq_self entries h]
    exact congrArg Value.map (swapRemove_if_eq_self fun e he => (tidyEntries_iff.mp h e he).1)

theorem dropInItems_eq_self : ∀ vs : List Value, TidyItems vs → dropInItems vs = vs
  | [], _ => rfl
  | v :: vs, h => by
    rw [dropInItems, dropNullTimestamps_eq_self v h.1, dropInItems_eq_self vs h.2]

theorem dropInEntries_eq_self :
    ∀ es : List (Value × Value), TidyEntries es → dropInEntries es = es
  | [], _ => rfl
  | (k, v) :: es, h => by
    rw [dropInEntries, dropNullTimestamps_eq_self v h.1.2, dropInEntries_eq_self es h.2]

end

/-! ## Whole documents -/

/-- Whether an entry is a status that is null or an empty mapping. -/
def isEmptyStatusEntry : Value × Value → Bool := holdsAt "status" isEmptyStatus

/-- Metadata without the keys that a server keeps. -/
def withoutServerKeys : Value → Value
  | .map entries => .map (entries.filter fun e => serverKeys.all fun key => e.1 ≠ .text key)
  | v => v

/-- The value of an entry, changed when the entry is the metadata of its document. -/
def atMetadata (f : Value → Value) (e : Value × Value) : Value :=
  if e.1 = .text "metadata" then f e.2 else e.2

/-- The document without what a platform fills in, every other entry in its place: without null
creation times, then without a status that is empty by now, then without the metadata that a
server keeps. -/
def withoutArtifacts (document : Value) : Value :=
  match withoutNullTimes document with
  | .map entries =>
    .map ((entries.filter fun e => !isEmptyStatusEntry e).map fun e =>
      (e.1, atMetadata withoutServerKeys e))
  | v => v

section

variable {entries : List (Value × Value)} {v v' : Value}

theorem perm_dropEmptyStatus (h : TextsApart entries) :
    (dropEmptyStatus entries).Perm (entries.filter fun e => !isEmptyStatusEntry e) :=
  perm_swapRemove_if h

theorem isEmptyStatus_map : isEmptyStatus (.map entries) = entries.isEmpty := by
  cases entries <;> rfl

theorem isEmptyStatus_of_reorders (h : Reorders v v') : isEmptyStatus v' = isEmptyStatus v := by
  cases h with
  | refl => rfl
  | seq => rfl
  | map h hperm =>
    rw [isEmptyStatus_map, isEmptyStatus_map, ← hperm.isEmpty_eq]
    cases h <;> rfl

theorem perm_dropKeys (h : TextsApart entries) (keys : List String) :
    (keys.foldl (fun es key => swapRemove key es) entries).Perm
      (entries.filter fun e => keys.all fun key => e.1 ≠ .text key) := by
  induction keys generalizing entries with
  | nil => simp
  | cons key keys ih =>
    have hstep : (swapRemove key entries).Perm (entries.filter fun e => e.1 ≠ .text key) :=
      perm_swapRemove h
    have hrest : TextsApart (swapRemove key entries) := h.filter.perm hstep.symm
    refine (ih hrest).trans ((hstep.filter _).trans (.of_eq ?_))
    rw [List.filter_filter]
    exact List.filter_congr fun e _ => by simp [Bool.and_comm]

/-- No text stands for two entries of a value, when it is a mapping. -/
def Apart (v : Value) : Prop := ∀ entries, v = .map entries → TextsApart entries

/-- Metadata that agree up to order still do without the keys that a server keeps. -/
theorem reorders_dropServerKeys (h : Reorders v v')
    (hapart : Apart v') :
    Reorders (withoutServerKeys v) (dropServerKeys v') := by
  cases v with
  | map entries =>
    obtain ⟨inner, entries', rfl, hinner, hperm⟩ := h.exists_entries
    exact .map (hinner.filter fun _ => rfl)
      ((hperm.filter _).trans (perm_dropKeys (hapart _ rfl) serverKeys).symm)
  | seq items => cases h with
    | refl => exact .refl _
    | seq h => exact .seq h
  | _ => cases h; exact .refl _

theorem updateMetadata_eq (f : Value → Value) (h : TextsApart entries) :
    updateMetadata f entries = entries.map fun e => (e.1, atMetadata f e) := by
  induction entries with
  | nil => rfl
  | cons e es ih =>
    obtain ⟨he, hes⟩ := List.pairwise_cons.mp h
    rw [updateMetadata, List.map_cons, atMetadata]
    by_cases hkey : e.1 = .text "metadata"
    · have hrest : es.map (fun e => (e.1, atMetadata f e)) = es :=
        (List.map_congr_left fun b hb => by rw [atMetadata, if_neg (he b hb _ hkey)]; rfl).trans
          (List.map_id es)
      rw [if_pos hkey, if_pos hkey, hrest]
    · rw [if_neg hkey, if_neg hkey, ih hes]

theorem updateMetadata_eq_self {f : Value → Value}
    (h : ∀ e ∈ entries, e.1 = .text "metadata" → f e.2 = e.2) :
    updateMetadata f entries = entries := by
  induction entries with
  | nil => rfl
  | cons e es ih =>
    obtain ⟨he, hes⟩ := List.forall_mem_cons.mp h
    rw [updateMetadata]
    split
    · rename_i hkey
      rw [he hkey]
    · rw [ih hes]

/-- Nothing moves when none of the keys is there. -/
theorem dropKeys_eq_self {keys : List String}
    (h : ∀ e ∈ entries, ∀ key ∈ keys, e.1 ≠ .text key) :
    keys.foldl (fun es key => swapRemove key es) entries = entries := by
  induction keys with
  | nil => rfl
  | cons key keys ih =>
    rw [List.foldl_cons, swapRemove_eq_self fun e he => h e he key List.mem_cons_self]
    exact ih fun e he key' hkey' => h e he key' (List.mem_cons_of_mem key hkey')

theorem isNull_dropServerKeys (v : Value) : (dropServerKeys v).isNull = v.isNull := by
  cases v <;> rfl

theorem tidy_dropServerKeys (h : Tidy v) (hapart : Apart v) : Tidy (dropServerKeys v) := by
  cases v with
  | map entries =>
    rw [dropServerKeys, Tidy, tidyEntries_iff]
    intro e he
    have hmem := (perm_dropKeys (hapart _ rfl) serverKeys).mem_iff.mp he
    exact tidyEntries_iff.mp h e (List.mem_of_mem_filter hmem)
  | _ => exact h

theorem dropServerKeys_dropServerKeys (hapart : Apart v) :
    dropServerKeys (dropServerKeys v) = dropServerKeys v := by
  cases v with
  | map entries =>
    refine congrArg Value.map (dropKeys_eq_self fun e he key hkey => ?_)
    have hmem := (perm_dropKeys (hapart _ rfl) serverKeys).mem_iff.mp he
    simpa using List.all_eq_true.mp (List.mem_filter.mp hmem).2 key hkey
  | _ => rfl

theorem apart_dropNullTimestamps (h : v.DistinctKeys) : Apart (dropNullTimestamps v) := by
  intro entries hmap
  cases v with
  | map inner =>
    obtain rfl := Value.map.inj hmap
    have hapart := textsApart_dropInEntries h.1
    exact hapart.filter.perm (perm_dropNullTimestamp hapart).symm
  | _ => cases hmap

theorem apart_of_mem_dropInEntries {e : Value × Value} (h : DistinctKeysEntries entries)
    (he : e ∈ dropInEntries entries) : Apart e.2 := by
  induction entries with
  | nil => cases he
  | cons first rest ih =>
    rcases List.mem_cons.mp he with rfl | he
    · exact apart_dropNullTimestamps h.2.1
    · exact ih h.2.2 he

end

/-! ## Normal documents -/

section

variable {entries : List (Value × Value)}

/-- A mapping without null creation times: its entries are apart and tidy, and so are the mappings
in them. -/
structure TidyMapping (entries : List (Value × Value)) : Prop where
  apart : TextsApart entries
  tidy : ∀ e ∈ entries, isNullTime e = false ∧ Tidy e.2
  apartBelow : ∀ e ∈ entries, Apart e.2

theorem tidyMapping_dropNullTimestamp (h : (Value.map entries).DistinctKeys) :
    TidyMapping (dropNullTimestamp (dropInEntries entries)) where
  apart := apart_dropNullTimestamps h _ rfl
  tidy := tidyEntries_iff.mp (tidy_dropNullTimestamps _ h)
  apartBelow e he := by
    have hmem := (perm_dropNullTimestamp (textsApart_dropInEntries h.1)).mem_iff.mp he
    exact apart_of_mem_dropInEntries h.2 (List.mem_of_mem_filter hmem)

theorem TidyMapping.without_status (h : TidyMapping entries) :
    TidyMapping (dropEmptyStatus entries) := by
  have hperm := perm_dropEmptyStatus h.apart
  have hmem {e : Value × Value} (he : e ∈ dropEmptyStatus entries) : e ∈ entries :=
    List.mem_of_mem_filter (hperm.mem_iff.mp he)
  exact ⟨h.apart.filter.perm hperm.symm, fun e he => h.tidy e (hmem he),
    fun e he => h.apartBelow e (hmem he)⟩

/-- Normalizing works on the entries that are left without null creation times. -/
theorem normalize_map (h : (Value.map entries).DistinctKeys) :
    normalize (.map entries)
      = .map ((dropEmptyStatus (dropNullTimestamp (dropInEntries entries))).map fun e =>
        (e.1, atMetadata dropServerKeys e)) :=
  congrArg Value.map (updateMetadata_eq _ (tidyMapping_dropNullTimestamp h).without_status.apart)

/-- Entries that agree up to order still do when those of a platform are taken out. -/
theorem reorders_atMetadata {inner entries' : List (Value × Value)}
    (h : ReordersEntries entries inner) (hperm : inner.Perm entries')
    (htidy : TidyMapping entries') :
    Reorders
      (.map ((entries.filter fun e => !isEmptyStatusEntry e).map fun e =>
        (e.1, atMetadata withoutServerKeys e)))
      (.map ((dropEmptyStatus entries').map fun e => (e.1, atMetadata dropServerKeys e))) := by
  have hstatus := h.filter (p := fun e => !isEmptyStatusEntry e) fun hv => by
    rw [isEmptyStatusEntry, holdsAt, holdsAt, isEmptyStatus_of_reorders hv]
  refine .map (hstatus.map fun {k v v'} hmem hv => ?_)
    (((hperm.filter _).trans (perm_dropEmptyStatus htidy.apart).symm).map _)
  rw [atMetadata, atMetadata]
  split
  · exact reorders_dropServerKeys hv
      (htidy.apartBelow _ (hperm.mem_iff.mp (List.mem_of_mem_filter hmem)))
  · exact hv

/-- A tidy mapping without an empty status and without metadata that a server keeps is normal. -/
theorem normalize_eq_self (htidy : Tidy (.map entries))
    (hstatus : ∀ e ∈ entries, isEmptyStatusEntry e = false)
    (hmetadata : ∀ e ∈ entries, e.1 = .text "metadata" → dropServerKeys e.2 = e.2) :
    normalize (.map entries) = .map entries := by
  have hkept : dropEmptyStatus entries = entries := swapRemove_if_eq_self hstatus
  rw [normalize, dropNullTimestamps_eq_self _ htidy]
  show Value.map (updateMetadata dropServerKeys (dropEmptyStatus entries)) = _
  rw [hkept, updateMetadata_eq_self hmetadata]

/-- A mapping that has been normalized is tidy, and has neither an empty status nor metadata that a
server keeps. -/
theorem TidyMapping.normal (h : TidyMapping entries)
    (hstatus : ∀ e ∈ entries, isEmptyStatusEntry e = false) :
    normalize (.map (entries.map fun e => (e.1, atMetadata dropServerKeys e)))
      = .map (entries.map fun e => (e.1, atMetadata dropServerKeys e)) := by
  have htidy : Tidy (.map (entries.map fun e => (e.1, atMetadata dropServerKeys e))) := by
    rw [Tidy, tidyEntries_iff, List.forall_mem_map]
    intro e he
    obtain ⟨hnull, htidy⟩ := h.tidy e he
    rw [isNullTime, holdsAt, atMetadata]
    split
    · rw [isNull_dropServerKeys]
      exact ⟨hnull, tidy_dropServerKeys htidy (h.apartBelow e he)⟩
    · exact ⟨hnull, htidy⟩
  refine normalize_eq_self htidy (List.forall_mem_map.mpr fun e he => ?_)
    (List.forall_mem_map.mpr fun e he hkey => ?_)
  · rw [← hstatus e he, isEmptyStatusEntry, holdsAt, holdsAt, atMetadata]
    split
    · rename_i hkey
      simp [hkey]
    · rfl
  · rw [atMetadata, if_pos hkey, dropServerKeys_dropServerKeys (h.apartBelow e he)]

end

/-- Normalizing takes out what a platform fills in, leaves all else but for the order of entries,
and finds nothing to do a second time. -/
theorem normalize_exact {document : Value} (h : document.DistinctKeys) :
    Reorders (withoutArtifacts document) (normalize document)
      ∧ normalize (normalize document) = normalize document := by
  have hreorders := reorders_dropNullTimestamps document h
  cases document with
  | map entries =>
    have htidy := tidyMapping_dropNullTimestamp h
    have hperm := perm_dropNullTimestamp (textsApart_dropInEntries h.1)
    rw [normalize_map h]
    refine ⟨reorders_atMetadata (reorders_dropInEntries entries h.2) hperm.symm htidy,
      htidy.without_status.normal fun e he => ?_⟩
    have hmem := (perm_dropEmptyStatus htidy.apart).mem_iff.mp he
    simpa using (List.mem_filter.mp hmem).2
  | _ => exact ⟨hreorders, dropNullTimestamps_eq_self _ (tidy_dropNullTimestamps _ h)⟩

/-- A service as a platform gives it: its status holds nothing but a null creation time. -/
def givenService : Value := .record [
  ("status", .record [(creationTimestamp, .null)]),
  ("metadata", .record [
    ("uid", .text "7"), ("name", .text "crdb"), (creationTimestamp, .text "2024-01-01T00:00:00Z"),
    ("namespace", .text "db")]),
  ("kind", .text "Service"),
  ("spec", .record [
    (creationTimestamp, .text "kept"),
    ("ports", .seq [.record [
      (creationTimestamp, .null), ("name", .text "sql"), ("port", .number (.int 26257))]])])]

theorem givenService_exact :
    givenService.DistinctKeys
      ∧ normalize givenService = .record [
        ("spec", .record [
          (creationTimestamp, .text "kept"),
          ("ports", .seq [.record [("port", .number (.int 26257)), ("name", .text "sql")]])]),
        ("metadata", .record [("namespace", .text "db"), ("name", .text "crdb")]),
        ("kind", .text "Service")]
      ∧ Reorders (withoutArtifacts givenService) (normalize givenService)
      ∧ normalize (normalize givenService) = normalize givenService := by
  have h : givenService.DistinctKeys := by
    simp [givenService, record, creationTimestamp, DistinctKeys, DistinctKeysEntries,
      DistinctKeysItems, agrees]
  exact ⟨h, by decide, normalize_exact h⟩

end Manifest

end Handover
