import Handover.Proofs.Codecs
import Handover.Proofs.OwnFlags
import Mathlib.Data.Finset.Card

/-!
# Flags in their order

Flags that are passed on are put in one at a time, and what they hold is settled by what was put in
(`Records`): each name once, in the order in which the names first came, with the value that came
last. One flag more keeps it so (`Records.insert`), and by induction any number of them does
(`Records.insertAll`).

Documents are read in the same way: their entries are put in as they stand, also those that repeat a
name. What flags are written as is such a document, with the flags for its entries
(`insertAll_inOrder`).
-/

namespace Handover

open Yaml

/-! ## Lists that are read item by item -/

section Lists

variable {α β γ : Type}

/-- Items that are related through others, one by one. -/
theorem forall₂_comp {R : α → β → Prop} {S : β → γ → Prop} {as : List α} {cs : List γ} :
    (∃ bs, List.Forall₂ R as bs ∧ List.Forall₂ S bs cs) ↔
      List.Forall₂ (fun a c => ∃ b, R a b ∧ S b c) as cs := by
  constructor
  · rintro ⟨bs, hR, hS⟩
    induction hR generalizing cs with
    | nil =>
      cases hS
      exact .nil
    | cons hR _ ih =>
      cases hS with
      | cons hS hrest => exact .cons ⟨_, hR, hS⟩ (ih hrest)
  · intro h
    induction h with
    | nil => exact ⟨[], .nil, .nil⟩
    | cons h _ ih =>
      obtain ⟨b, hR, hS⟩ := h
      obtain ⟨bs, hRs, hSs⟩ := ih
      exact ⟨b :: bs, .cons hR hRs, .cons hS hSs⟩

/-- A step over a list that takes back what items were written as. -/
theorem mapM_eq_some_iff {f : α → Option β} {g : β → α}
    (hf : ∀ {a b}, f a = some b ↔ a = g b) {as : List α} {bs : List β} :
    as.mapM f = some bs ↔ as = bs.map g := by
  induction as generalizing bs with
  | nil => cases bs <;> simp
  | cons a as ih =>
    rw [List.mapM_cons, Option.bind_eq_bind, Option.bind_eq_some_iff]
    constructor
    · rintro ⟨b, hb, h⟩
      obtain ⟨bs', hbs, h⟩ := Option.bind_eq_some_iff.mp h
      cases h
      rw [List.map_cons, ← hf.mp hb, ← ih.mp hbs]
    · intro h
      cases bs with
      | nil => cases h
      | cons b bs =>
        obtain ⟨ha, has⟩ := List.cons.inj h
        exact ⟨b, hf.mpr ha, Option.bind_eq_some_iff.mpr ⟨bs, ih.mpr has, rfl⟩⟩

end Lists

namespace StartCommand

/-! ## First and last places -/

variable {all names : List String} {name value : String} {given : List (String × String)}

/-- Names stand in the order of their first places in a list, none of them twice. -/
def FirstSeen (all names : List String) : Prop :=
  names.Pairwise fun name next => all.idxOf name < all.idxOf next

theorem FirstSeen.nodup (h : FirstSeen all names) : names.Nodup := by
  refine List.Pairwise.imp (fun hlt heq => ?_) h
  rw [heq] at hlt
  exact Nat.lt_irrefl _ hlt

/-- There is one such order of the same names. -/
theorem FirstSeen.unique {names' : List String} (h : FirstSeen all names)
    (h' : FirstSeen all names') (hmem : ∀ name, name ∈ names ↔ name ∈ names') : names = names' := by
  have hperm : names.Perm names' :=
    (List.perm_ext_iff_of_nodup h.nodup h'.nodup).mpr fun name => hmem name
  exact hperm.eq_of_pairwise (fun _ _ _ _ hlt hgt => absurd hlt (Nat.lt_asymm hgt)) h h'

/-- What comes later does not change the places that are taken. -/
theorem FirstSeen.append (h : FirstSeen all names) (hmem : ∀ name ∈ names, name ∈ all)
    (later : List String) : FirstSeen (all ++ later) names := by
  refine List.Pairwise.imp_of_mem (fun hname hnext hlt => ?_) h
  rwa [List.idxOf_append_of_mem (hmem _ hname), List.idxOf_append_of_mem (hmem _ hnext)]

/-- A new name comes behind all others. -/
theorem FirstSeen.concat (h : FirstSeen all names) (hmem : ∀ name ∈ names, name ∈ all)
    (hnew : name ∉ all) : FirstSeen (all ++ [name]) (names ++ [name]) := by
  refine List.pairwise_append.mpr ⟨h.append hmem [name], List.pairwise_singleton _ _, ?_⟩
  intro earlier hearlier next hnext
  obtain rfl : next = name := List.mem_singleton.mp hnext
  have hlt := List.idxOf_lt_length_of_mem (hmem earlier hearlier)
  rw [List.idxOf_append_of_mem (hmem earlier hearlier), List.idxOf_append_of_notMem hnew]
  exact Nat.lt_of_lt_of_le hlt (Nat.le_add_right _ _)

/-- The last value of a flag stands in an entry behind which the flag does not occur. -/
theorem lastValue?_eq_some_iff :
    lastValue? given name = some value ↔ IsLast given (name, value) := by
  refine ⟨fun h => ?_, IsLast.lastValue?⟩
  obtain ⟨e, he, rfl⟩ := Option.map_eq_some_iff.mp h
  obtain ⟨hname, after, before, hreverse, hafter⟩ := List.find?_eq_some_iff_append.mp he
  obtain rfl : e.1 = name := of_decide_eq_true hname
  refine ⟨before.reverse, after.reverse, ?_, fun e' he' => ?_⟩
  · rw [← List.reverse_reverse given, hreverse]
    simp
  · simpa using hafter e' (List.mem_reverse.mp he')

end StartCommand

namespace ExtraFlags

open StartCommand

/-! ## What flags hold -/

variable {flags : ExtraFlags} {inserted : List (String × String)}

/-- Flags hold what was put in: each name once, in the order in which the names first came, with the
value that came last. -/
structure Records (flags : ExtraFlags) (inserted : List (String × String)) : Prop where
  inOrder : FirstSeen (inserted.map (·.1)) (flags.entries.map (·.1))
  mem_iff : ∀ name, name ∈ flags.entries.map (·.1) ↔ name ∈ inserted.map (·.1)
  last : ∀ name value, flags.get? name = some value ↔ IsLast inserted (name, value)

theorem Records.get?_eq (h : flags.Records inserted) (name : String) :
    flags.get? name = lastValue? inserted name :=
  Option.ext fun value => (h.last name value).trans lastValue?_eq_some_iff.symm

theorem Records.get?_eq_none_iff (h : flags.Records inserted) (name : String) :
    flags.get? name = none ↔ name ∉ inserted.map (·.1) := by
  rw [h.get?_eq, lastValue?_eq_none_iff]

/-- An entry is what its name finds. -/
theorem get?_of_mem {e : String × String} (he : e ∈ flags.entries) : flags.get? e.1 = some e.2 := by
  obtain ⟨e', he'⟩ : ∃ e', flags.entries.find? (·.1 = e.1) = some e' := by
    rw [← Option.isSome_iff_exists, List.find?_isSome]
    exact ⟨e, he, decide_eq_true rfl⟩
  have hname : e'.1 = e.1 := by simpa using List.find?_some he'
  have heq : e' = e :=
    List.inj_on_of_nodup_map flags.nodup (List.mem_of_find?_eq_some he') he hname
  rw [get?, he', heq, Option.map_some]

/-- What was put in settles what is held. -/
theorem Records.unique {flags' : ExtraFlags} (h : flags.Records inserted)
    (h' : flags'.Records inserted) : flags = flags' := by
  have hentries (flags : ExtraFlags) : flags.entries
      = (flags.entries.map (·.1)).map fun name => (name, (flags.get? name).getD "") := by
    rw [List.map_map]
    refine (List.map_id flags.entries).symm.trans (List.map_congr_left fun e he => ?_)
    simp [get?_of_mem he]
  have hnames : flags.entries.map (·.1) = flags'.entries.map (·.1) :=
    h.inOrder.unique h'.inOrder fun name => (h.mem_iff name).trans (h'.mem_iff name).symm
  refine ext_entries ?_
  rw [hentries flags, hentries flags', hnames]
  simp only [h.get?_eq, h'.get?_eq]

theorem Records.size_eq (h : flags.Records inserted) :
    flags.size = (inserted.map (·.1)).toFinset.card := by
  have hnames : (flags.entries.map (·.1)).toFinset = (inserted.map (·.1)).toFinset := by
    ext name
    rw [List.mem_toFinset, List.mem_toFinset, h.mem_iff]
  rw [← hnames, List.toFinset_card_of_nodup h.inOrder.nodup, List.length_map, size]

/-! ## Putting flags in -/

/-- Flags with entries put in, one after the other. -/
def insertAll (flags : ExtraFlags) (entries : List (String × String)) : ExtraFlags :=
  entries.foldl (fun flags e => flags.insert e.1 e.2) flags

theorem records_empty : ({} : ExtraFlags).Records [] where
  inOrder := .nil
  mem_iff _ := Iff.rfl
  last name value := by
    rw [← lastValue?_eq_some_iff]
    rfl

/-- A name that is put in again keeps its place, and a new one goes behind the others. -/
theorem Records.insert (h : flags.Records inserted) (name value : String) :
    (flags.insert name value).Records (inserted ++ [(name, value)]) where
  inOrder := by
    have hmem : ∀ name ∈ flags.entries.map (·.1), name ∈ inserted.map (·.1) :=
      fun name => (h.mem_iff name).mp
    rw [List.map_append, ExtraFlags.insert]
    dsimp only
    by_cases hname : name ∈ flags.entries.map (·.1)
    · rw [names_setFlag_of_mem hname]
      exact h.inOrder.append hmem [name]
    · rw [setFlag_of_notMem hname, List.map_append]
      exact h.inOrder.concat hmem (hname ∘ (h.mem_iff name).mpr)
  mem_iff name' := by
    rw [ExtraFlags.insert, mem_names_setFlag, h.mem_iff, List.map_append, List.mem_append, or_comm]
    exact or_congr_right List.mem_singleton.symm
  last name' value' := by
    rw [get?_insert, ← lastValue?_eq_some_iff, lastValue?_concat, h.get?_eq]

theorem Records.insertAll (h : flags.Records inserted) (entries : List (String × String)) :
    (flags.insertAll entries).Records (inserted ++ entries) := by
  induction entries generalizing flags inserted with
  | nil => rwa [List.append_nil]
  | cons e entries ih =>
    rw [List.append_cons]
    exact ih (h.insert e.1 e.2)

theorem records_ofList (entries : List (String × String)) : (ofList entries).Records entries :=
  records_empty.insertAll entries

/-! ## Documents of flags -/

/-- A document is a mapping with these texts for its entries, in their order; null has none. -/
def IsMapping (document : Value) (texts : List (String × String)) : Prop :=
  ∃ entries, (document.untagged = .map entries ∨ document.untagged = .null ∧ entries = [])
    ∧ List.Forall₂ (fun e t => e.1.asText? = some t.1 ∧ e.2.asText? = some t.2) entries texts

/-- What is read of a document is what its entries build, and only mappings of texts are read. -/
theorem read_eq_ok {v : Value} {flags : ExtraFlags} :
    codec.read v = .ok flags ↔ ∃ texts, IsMapping v texts ∧ flags = ofList texts := by
  simp only [codec, Outcome.bind_eq_ok, Fields.ofValue_eq_ok, Outcome.mapM_eq_ok,
    Fields.ofEntry_eq_ok, Codec.map_eq_ok, Codec.read_text_eq_ok]
  constructor
  · rintro ⟨fields, ⟨entries, hv, hfields⟩, texts, htexts, hflags⟩
    cases hflags
    refine ⟨texts, ⟨entries, hv, ?_⟩, rfl⟩
    refine (forall₂_comp.mp ⟨fields, hfields, htexts⟩).imp fun e t h => ?_
    obtain ⟨field, ⟨hname, heq⟩, value, hvalue, rfl⟩ := h
    exact ⟨hname, heq ▸ hvalue⟩
  · rintro ⟨texts, ⟨entries, hv, htexts⟩, rfl⟩
    obtain ⟨fields, hfields, htexts⟩ : ∃ fields : Fields,
        List.Forall₂ (fun e f => e.1.asText? = some f.1 ∧ e.2 = f.2) entries fields
          ∧ List.Forall₂ (fun f t => ∃ s, f.2.asText? = some s ∧ (f.1, s) = t) fields texts :=
      forall₂_comp.mpr (htexts.imp fun e t h => ⟨(t.1, e.2), ⟨h.1, rfl⟩, t.2, h.2, rfl⟩)
    exact ⟨fields, ⟨entries, hv, hfields⟩, texts, htexts, rfl⟩

/-- JSON is read in the same way, and there a name may occur several times. -/
theorem ofJson?_eq_some {json : Json} {flags : ExtraFlags} :
    ofJson? json = some flags ↔
      ∃ texts : List (String × String), json = .object (texts.map fun t => (t.1, .text t.2))
        ∧ flags = ofList texts := by
  unfold ofJson?
  split
  · rename_i members
    simp only [Option.bind_eq_bind, Option.bind_eq_some_iff]
    refine exists_congr fun texts => and_congr ?_ ?_
    · rw [mapM_eq_some_iff (g := fun t : String × String => (t.1, Json.text t.2)),
        Json.object.injEq]
      intro member text
      split
      · simp [Prod.ext_iff]
      · rename_i hother
        refine ⟨nofun, fun h => absurd h ?_⟩
        exact hother text.1 text.2
    · exact Option.some_inj.trans eq_comm
  · rename_i hother
    refine ⟨nofun, ?_⟩
    rintro ⟨texts, rfl, -⟩
    exact absurd rfl (hother _)

/-- Flags that are put in behind others are held with them: each name once, in the order in which
the names first came, with the value that came last, and this settles what is held. Of documents,
those are read whose entries are texts, and they are read as their entries put in one after the
other, whatever names they repeat. All flags are built so, and they are read back from what they are
written as, in their order. -/
theorem insertAll_inOrder :
    (∀ earlier inserted : List (String × String),
      let flags := (ofList earlier).insertAll inserted
      let all := earlier ++ inserted
      flags.Records all ∧ (∀ flags' : ExtraFlags, flags'.Records all → flags' = flags)
        ∧ (flags.entries.map (·.1)).Nodup
        ∧ (∀ name, flags.get? name = none ↔ name ∉ all.map (·.1))
        ∧ flags.size = (all.map (·.1)).toFinset.card)
      ∧ (∀ document flags, codec.read document = .ok flags ↔
        ∃ texts, IsMapping document texts ∧ flags = ofList texts)
      ∧ (∀ json flags, ofJson? json = some flags ↔
        ∃ texts : List (String × String), json = .object (texts.map fun t => (t.1, .text t.2))
          ∧ flags = ofList texts)
      ∧ ∀ flags : ExtraFlags, ofList flags.entries = flags
        ∧ codec.read (codec.write flags) = .ok flags ∧ ofJson? flags.toJson = some flags := by
  refine ⟨fun earlier inserted => ?_, fun _ _ => read_eq_ok, fun _ _ => ofJson?_eq_some,
    fun flags => ⟨flags.ofList_entries, (lawful_codec flags).2, ?_⟩⟩
  · have hrecords := (records_ofList earlier).insertAll inserted
    exact ⟨hrecords, fun _ h => h.unique hrecords, hrecords.inOrder.nodup,
      hrecords.get?_eq_none_iff, hrecords.size_eq⟩
  · exact ofJson?_eq_some.mpr ⟨flags.entries, rfl, flags.ofList_entries.symm⟩

example : (ofJson? (.object [("--cache", .text "25%"), ("--background", .text ""),
    ("--cache", .text "30%")])).map entries = some [("--cache", "30%"), ("--background", "")] := by
  decide

end ExtraFlags

end Handover
