import Handover.Proofs.ChartValues
import Handover.Proofs.PassedOn

/-!
# Reading what was written

A value that a codec writes is read back when its parts are (`Codec.ReadsBack`). For a record, each
field is read from the fields that are written for it: a field that is left out stands for what was
left out. The codecs of texts, numbers, labels and flags read back every value.
-/

namespace Handover.Yaml

namespace Codec

variable {α β : Type}

/-! ## Steps of reading -/

theorem map_eq_ok {x : Except Unreadable α} {f : α → β} {b : β} :
    f <$> x = .ok b ↔ ∃ a, x = .ok a ∧ f a = b := by
  cases x <;> simp [Functor.map, Except.map]

/-- What every step over a list gives is true of all that the list comes to. -/
theorem forall_of_mapM {f : α → Except Unreadable β} {P : β → Prop} {as : List α} {bs : List β}
    (hf : ∀ a b, f a = .ok b → P b) (h : as.mapM f = .ok bs) : ∀ b ∈ bs, P b := by
  have hall := Outcome.mapM_eq_ok.mp h
  clear h
  induction hall with
  | nil => exact nofun
  | cons hb _ ih => exact List.forall_mem_cons.mpr ⟨hf _ _ hb, ih⟩

theorem read_text_eq_ok {v : Value} {s : String} : text.read v = .ok s ↔ v.asText? = some s := by
  simp only [text, Value.asText?]
  cases v.untagged <;> simp

/-! ## Values that are read back -/

/-- A value is not written as null and is read back as it was. -/
def ReadsBack (c : Codec α) (a : α) : Prop := c.write a ≠ .null ∧ c.read (c.write a) = .ok a

theorem lawful_text : text.Lawful := fun _ => ⟨nofun, rfl⟩

theorem readInt_number {least greatest i : Int} (h : least ≤ i ∧ i ≤ greatest) :
    readInt least greatest (.number (.int i)) = .ok i := by
  show (if least ≤ i ∧ i ≤ greatest then _ else _) = _
  rw [if_pos h]

theorem lawful_int32 : int32.Lawful := by
  refine fun i => ⟨nofun, ?_⟩
  show Int32.ofInt <$> readInt _ _ (.number (.int i.toInt)) = .ok i
  rw [readInt_number ⟨i.minValue_le_toInt, i.toInt_le⟩]
  exact congrArg Except.ok i.ofInt_toInt

theorem lawful_int64 : int64.Lawful := by
  refine fun i => ⟨nofun, ?_⟩
  show Int64.ofInt <$> readInt _ _ (.number (.int i.toInt)) = .ok i
  rw [readInt_number ⟨i.minValue_le_toInt, i.toInt_le⟩]
  exact congrArg Except.ok i.ofInt_toInt

/-! ## Sequences and mappings -/

theorem mapM_read_write {c : Codec α} {as : List α} (h : ∀ a ∈ as, c.ReadsBack a) :
    (as.map c.write).mapM c.read = .ok as := by
  induction as with
  | nil => rfl
  | cons a as ih =>
    obtain ⟨ha, has⟩ := List.forall_mem_cons.mp h
    rw [List.map_cons, List.mapM_cons, ha.2, ih has]
    rfl

/-- A sequence is read back when its items are. -/
theorem readsBack_list {c : Codec α} {as : List α} (h : ∀ a ∈ as, c.ReadsBack a) :
    (list c).ReadsBack as :=
  ⟨nofun, mapM_read_write h⟩

theorem ofValue_record (fields : Fields) : Fields.ofValue (.record fields) = .ok fields := by
  show (fields.map fun f => (Value.text f.1, f.2)).mapM Fields.ofEntry = .ok fields
  induction fields with
  | nil => rfl
  | cons f fields ih =>
    rw [List.map_cons, List.mapM_cons, ih]
    rfl

/-- A record is read from the fields that are written. -/
theorem read_record (readFields : Fields → Except Unreadable α) (fields : α → Fields) (a : α) :
    (record readFields fields).read ((record readFields fields).write a)
      = readFields (fields a) := by
  show (Fields.ofValue (.record (fields a)) >>= readFields) = _
  rw [ofValue_record]
  rfl

/-- Entries of texts are read back in their order, whatever they build. -/
theorem read_texts (entries : List (String × String)) (build : List (String × String) → α) :
    (do
      let fields ← Fields.ofValue
        (.record (entries.map fun e : String × String => (e.1, .text e.2)))
      let texts ← fields.mapM fun (k, v) => (k, ·) <$> text.read v
      return build texts : Except Unreadable α) = .ok (build entries) := by
  have htexts : (entries.map fun e : String × String => (e.1, Value.text e.2)).mapM
      (fun f : String × Value => (f.1, ·) <$> text.read f.2) = .ok entries := by
    induction entries with
    | nil => rfl
    | cons e entries ih =>
      rw [List.map_cons, List.mapM_cons, ih]
      rfl
  rw [ofValue_record]
  exact congrArg (fun texts : Except Unreadable _ => do return build (← texts)) htexts

end Codec

end Handover.Yaml

namespace Handover

open Yaml Kubernetes

/-- A map is what its entries build. -/
theorem KeyMap.ofList_entries {α : Type} (m : KeyMap String α) : KeyMap.ofList m.entries = m := by
  refine KeyMap.ext_get? fun k => ?_
  refine (KeyMap.get?_foldl_insert id _ _ _).trans ?_
  rw [KeyMap.get?_empty, Option.or_none]
  exact KeyMap.find?_reverse_entries m k

/-- Flags under names of their own are put in one after the other. -/
theorem ExtraFlags.entries_foldl_insert (entries : List (String × String)) (flags : ExtraFlags)
    (h : ((flags.entries ++ entries).map (·.1)).Nodup) :
    (entries.foldl (fun flags e => flags.insert e.1 e.2) flags).entries
      = flags.entries ++ entries := by
  induction entries generalizing flags with
  | nil => exact (List.append_nil _).symm
  | cons e entries ih =>
    have hnew : (flags.insert e.1 e.2).entries = flags.entries ++ [e] := by
      refine StartCommand.setFlag_of_notMem fun hmem => ?_
      rw [List.map_append] at h
      exact (List.disjoint_of_nodup_append h) hmem (by simp)
    rw [List.foldl_cons, ih, hnew, List.append_assoc, List.singleton_append]
    rwa [hnew, List.append_assoc, List.singleton_append]

/-- Flags are what their entries build. -/
theorem ExtraFlags.ofList_entries (flags : ExtraFlags) : ofList flags.entries = flags :=
  ext_entries (entries_foldl_insert flags.entries {} flags.nodup)

theorem Kubernetes.Labels.lawful_codec : Labels.codec.Lawful := fun labels =>
  ⟨nofun, (Codec.read_texts labels.entries KeyMap.ofList).trans
    (congrArg Except.ok labels.ofList_entries)⟩

theorem ExtraFlags.lawful_codec : ExtraFlags.codec.Lawful := fun flags =>
  ⟨nofun, (Codec.read_texts flags.entries ExtraFlags.ofList).trans
    (congrArg Except.ok flags.ofList_entries)⟩

namespace Yaml.Fields

/-! ## Fields -/

attribute [simp] List.find?_append find?_one find?_opt find?_many

variable {α : Type} {fields : Fields} {name : String} {c : Codec α}

theorem ofEntry_eq_ok {e : Value × Value} {field : String × Value} :
    ofEntry e = .ok field ↔ e.1.asText? = some field.1 ∧ e.2 = field.2 := by
  rw [ofEntry]
  cases e.1.asText? <;> simp [Prod.ext_iff]

theorem ofValue_eq_ok {v : Value} {fields : Fields} :
    ofValue v = .ok fields ↔
      ∃ entries, (v.untagged = .map entries ∨ v.untagged = .null ∧ entries = [])
        ∧ entries.mapM ofEntry = .ok fields := by
  simp only [ofValue]
  cases v.untagged <;> simp [pure, Except.pure]

/-- A field that may be missing is read from what is written for it. -/
theorem optional_eq {a : Option α}
    (h : fields.find? (fun f => f.1 = name) = (opt name c a).find? fun f => f.1 = name)
    (ha : ∀ x ∈ a, c.ReadsBack x) : fields.optional name c = .ok a := by
  rw [find?_opt, if_pos rfl] at h
  cases a with
  | none =>
    have hget : fields.get? name = none := by rw [get?, h]; rfl
    rw [optional, hget]
  | some a =>
    obtain ⟨hnull, hread⟩ := ha a rfl
    have hget : fields.get? name = some (c.write a) := by
      rw [get?, h, Option.map_some]
      generalize c.write a = v at hnull
      cases v <;> first | rfl | exact absurd rfl hnull
    rw [optional, hget]
    show some <$> c.read (c.write a) = _
    rw [hread]
    rfl

/-- A field that stands for what is not written is read from what is written for it. -/
theorem unlessAbsent_eq {a default : α} {e : Bool}
    (h : fields.find? (fun f => f.1 = name) = (many name c e a).find? fun f => f.1 = name)
    (ha : e = false → c.ReadsBack a) (hdefault : e = true → a = default) :
    fields.unlessAbsent name c default = .ok a := by
  rw [find?_many] at h
  cases e with
  | true =>
    rw [unlessAbsent, h, if_neg nofun, hdefault rfl]
  | false =>
    rw [unlessAbsent, h, if_pos ⟨rfl, rfl⟩]
    exact (ha rfl).2

theorem required_eq {a : α}
    (h : fields.find? (fun f => f.1 = name) = (one name c a).find? fun f => f.1 = name)
    (ha : c.ReadsBack a) : fields.required name c = .ok a := by
  rw [find?_one, if_pos rfl] at h
  rw [required, get, h]
  exact ha.2

/-- A field with a default that is always written is read from what is written for it. -/
theorem withDefault_eq {a default : α}
    (h : fields.find? (fun f => f.1 = name) = (one name c a).find? fun f => f.1 = name)
    (ha : c.ReadsBack a) : fields.withDefault name c default = .ok a := by
  have hread : fields.optional name c = .ok (some a) :=
    optional_eq h fun x hx => Option.some.inj hx ▸ ha
  rw [withDefault, hread]
  rfl

/-- An object that states its own type is not refused for it. -/
theorem checkOwn_eq {own : String}
    (h : fields.find? (fun f => f.1 = name) = some (name, .text own)) :
    Codec.checkOwn fields name own = .ok () := by
  have hread : fields.unlessAbsent name Codec.text own = .ok own := by
    rw [unlessAbsent, h]
    rfl
  rw [Codec.checkOwn, hread]
  exact if_pos rfl

end Yaml.Fields

end Handover
