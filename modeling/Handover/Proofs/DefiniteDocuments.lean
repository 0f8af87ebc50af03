import Handover.Kubernetes.CrdbNode
import Handover.Proofs.Codecs
import Handover.Proofs.Normality

/-!
# Documents without nulls

A document that says something at every place has no null creation time, and normalizing can only
take out of it what it says of its status and its metadata. What is read by a shape that does not
admit arbitrary documents is of this kind (`definite_read`).
-/

namespace Handover

open Yaml

/-! ## Definite values -/

namespace Manifest

/-- A value is not null and holds no null creation time. -/
def Definite (v : Value) : Prop := v.isNull = false ∧ Tidy v

@[simp] theorem definite_text (s : String) : Definite (.text s) := ⟨rfl, trivial⟩

@[simp] theorem definite_bool (b : Bool) : Definite (.bool b) := ⟨rfl, trivial⟩

@[simp] theorem definite_number (n : Number) : Definite (.number n) := ⟨rfl, trivial⟩

theorem definite_seq {items : List Value} (h : ∀ v ∈ items, Definite v) :
    Definite (.seq items) := by
  refine ⟨rfl, ?_⟩
  show TidyItems items
  induction items with
  | nil => trivial
  | cons v vs ih =>
    obtain ⟨hv, hvs⟩ := List.forall_mem_cons.mp h
    exact ⟨hv.2, ih hvs⟩

theorem definite_map {entries : List (Value × Value)} (h : ∀ e ∈ entries, Definite e.2) :
    Definite (.map entries) :=
  ⟨rfl, tidyEntries_iff.mpr fun e he => ⟨by simp [isNullTime, holdsAt, (h e he).1], (h e he).2⟩⟩

theorem definite_record {fields : Fields} (h : ∀ f ∈ fields, Definite f.2) :
    Definite (.record fields) :=
  definite_map (List.forall_mem_map.mpr h)

/-- A record of texts, whatever its names. -/
theorem definite_texts (texts : List (String × String)) :
    Definite (.record (texts.map fun e => (e.1, .text e.2))) :=
  definite_record (List.forall_mem_map.mpr fun e _ => definite_text e.2)

end Manifest

/-! ## Shapes -/

/-- A map has no entries but those that it is built from. -/
theorem KeyMap.mem_of_mem_foldl {α : Type} {e : String × α} {es : List (String × α)}
    {m : KeyMap String α} (h : e ∈ (es.foldl (fun m e => m.insert e.1 e.2) m).entries) :
    e ∈ es ∨ e ∈ m.entries := by
  induction es generalizing m with
  | nil => exact .inr h
  | cons e' es ih =>
    rcases ih h with h | h
    · exact .inl (List.mem_cons_of_mem _ h)
    · rcases KeyMap.fst_mem_insertEntry h with rfl | h
      · exact .inl List.mem_cons_self
      · exact .inr h

theorem KeyMap.mem_of_mem_ofList {α : Type} {e : String × α} {es : List (String × α)}
    (h : e ∈ (KeyMap.ofList es).entries) : e ∈ es :=
  (mem_of_mem_foldl h).resolve_right nofun

namespace Yaml.Shape

open Manifest

mutual

/-- No part of the shape admits every document. -/
def isDefinite : Shape → Bool
  | .any => false
  | .list s => s.isDefinite
  | .map s => s.isDefinite
  | .record fields => areDefinite fields
  | _ => true

def areDefinite : List (String × Bool × Shape) → Bool
  | [] => true
  | (_, _, s) :: fields => s.isDefinite && areDefinite fields

end

mutual

theorem definite_blank : ∀ s : Shape, s.isDefinite = true → Definite s.blank
  | .text, _ | .time, _ => definite_text _
  | .bool, _ => definite_bool _
  | .int32, _ | .int64, _ | .intOrText, _ => definite_number _
  | .list _, _ => definite_seq nofun
  | .map _, _ => definite_map nofun
  | .record fields, h => definite_map (definite_blankFields fields h)

theorem definite_blankFields : ∀ fields : List (String × Bool × Shape),
    areDefinite fields = true → ∀ e ∈ blankFields fields, Definite e.2
  | [], _ => nofun
  | (_, true, s) :: fields, h =>
    have h := Bool.and_eq_true_iff.mp h
    List.forall_mem_cons.mpr ⟨definite_blank s h.1, definite_blankFields fields h.2⟩
  | (_, false, _) :: fields, h =>
    definite_blankFields fields (Bool.and_eq_true_iff.mp h).2

end

mutual

/-- What a definite shape reads is definite. -/
theorem definite_read : ∀ (s : Shape), s.isDefinite = true → ∀ {v w : Value},
    s.read v = .ok w → Definite w
  | .text, _, _, _, h => by
    obtain ⟨t, -, rfl⟩ := Codec.map_eq_ok.mp h
    exact definite_text t
  | .bool, _, _, _, h => by
    obtain ⟨b, -, rfl⟩ := Codec.map_eq_ok.mp h
    exact definite_bool b
  | .int32, _, _, _, h => by
    obtain ⟨i, -, rfl⟩ := Codec.map_eq_ok.mp h
    exact definite_number _
  | .int64, _, _, _, h => by
    obtain ⟨i, -, rfl⟩ := Codec.map_eq_ok.mp h
    exact definite_number _
  | .intOrText, _, v, _, h => by
    cases v with
    | text t =>
      cases h
      exact definite_text t
    | number n =>
      obtain ⟨i, -, rfl⟩ := Codec.map_eq_ok.mp h
      exact definite_number _
    | _ => cases h
  | .time, _, _, _, h => by
    obtain ⟨t, -, rfl⟩ := Codec.map_eq_ok.mp h
    exact definite_text t
  | .list s, hs, _, _, h => by
    obtain ⟨items, -, h⟩ := Outcome.bind_eq_ok.mp h
    obtain ⟨vs, hvs, h⟩ := Outcome.bind_eq_ok.mp h
    cases h
    exact definite_seq (Codec.forall_of_mapM (fun _ _ => definite_read s hs) hvs)
  | .map s, hs, _, _, h => by
    obtain ⟨given, -, h⟩ := Outcome.bind_eq_ok.mp h
    obtain ⟨fields, hfields, h⟩ := Outcome.bind_eq_ok.mp h
    cases h
    have hall : ∀ f ∈ fields, Definite f.2 := by
      refine Codec.forall_of_mapM (fun f f' hf => ?_) hfields
      obtain ⟨v, hv, rfl⟩ := Codec.map_eq_ok.mp hf
      exact definite_read s hs hv
    exact definite_record fun f hf => hall f (KeyMap.mem_of_mem_ofList hf)
  | .record fields, hs, _, _, h => by
    obtain ⟨given, -, h⟩ := Outcome.bind_eq_ok.mp h
    obtain ⟨entries, hentries, h⟩ := Outcome.bind_eq_ok.mp h
    cases h
    exact definite_map (definite_readFields fields hs hentries)

theorem definite_readFields : ∀ fields : List (String × Bool × Shape),
    areDefinite fields = true → ∀ {given : Fields} {entries : List (Value × Value)},
      readFields fields given = .ok entries → ∀ e ∈ entries, Definite e.2
  | [], _, _, _, h => by
    cases h
    exact nofun
  | (name, needed, s) :: fields, hs, given, entries, h => by
    obtain ⟨hs, hfields⟩ := Bool.and_eq_true_iff.mp hs
    rw [readFields] at h
    obtain ⟨rest, hrest, h⟩ := Outcome.bind_eq_ok.mp h
    have hall := definite_readFields fields hfields hrest
    split at h
    · obtain ⟨w, hw, h⟩ := Outcome.bind_eq_ok.mp h
      cases h
      exact List.forall_mem_cons.mpr ⟨definite_read s hs hw, hall⟩
    · cases h
      split
      · exact List.forall_mem_cons.mpr ⟨definite_blank s hs, hall⟩
      · exact hall

end

end Yaml.Shape

/-! ## Fields -/

namespace Yaml.Fields

open Kubernetes Manifest

variable {α : Type} {name : String} {c : Codec α}

/-- The value of every field is definite. -/
def AllDefinite (fields : Fields) : Prop := ∀ f ∈ fields, Definite f.2

@[simp] theorem allDefinite_cons {f : String × Value} {fields : Fields} :
    AllDefinite (f :: fields) ↔ Definite f.2 ∧ AllDefinite fields :=
  List.forall_mem_cons

@[simp] theorem allDefinite_append {fields fields' : Fields} :
    AllDefinite (fields ++ fields') ↔ AllDefinite fields ∧ AllDefinite fields' :=
  List.forall_mem_append

@[simp] theorem allDefinite_one {a : α} : AllDefinite (one name c a) ↔ Definite (c.write a) := by
  simp [AllDefinite, one]

@[simp] theorem allDefinite_opt {a : Option α} :
    AllDefinite (opt name c a) ↔ ∀ x ∈ a, Definite (c.write x) := by
  cases a with
  | none => simp [AllDefinite, opt]
  | some a => simp [opt]

@[simp] theorem allDefinite_many {e : Bool} {a : α} :
    AllDefinite (many name c e a) ↔ (e = false → Definite (c.write a)) := by
  cases e with
  | true => simp [AllDefinite, many]
  | false => simp [many]

theorem AllDefinite.record {fields : Fields} (h : AllDefinite fields) :
    Definite (Value.record fields) :=
  definite_record h

/-- A part that a definite shape reads is definite. -/
theorem definite_of_optional {fields : Fields} {s : Shape} (hs : s.isDefinite = true)
    {a : Option Value} (h : fields.optional name s.codec = .ok a) :
    ∀ v ∈ a, Definite (s.codec.write v) := by
  rw [optional] at h
  split at h
  · cases h
    simp
  · obtain ⟨v, hv, rfl⟩ := Codec.map_eq_ok.mp h
    rintro w ⟨⟩
    exact Shape.definite_read s hs hv

end Yaml.Fields

namespace Yaml.Codec

open Kubernetes Manifest

variable {α : Type}

@[simp] theorem definite_write_text (s : String) : Definite (text.write s) := definite_text s

@[simp] theorem definite_write_time (s : String) : Definite (time.write s) := definite_text s

@[simp] theorem definite_write_int32 (i : Int32) : Definite (int32.write i) := definite_number _

@[simp] theorem definite_write_int64 (i : Int64) : Definite (int64.write i) := definite_number _

theorem definite_list {c : Codec α} {as : List α} (h : ∀ a ∈ as, Definite (c.write a)) :
    Definite ((list c).write as) :=
  definite_seq (List.forall_mem_map.mpr h)

@[simp] theorem definite_write_texts (texts : List String) : Definite ((list text).write texts) :=
  definite_list fun s _ => definite_write_text s

@[simp] theorem definite_write_labels (labels : Labels) : Definite (Labels.codec.write labels) :=
  definite_texts labels.entries

@[simp] theorem definite_write_flags (flags : ExtraFlags) :
    Definite (ExtraFlags.codec.write flags) :=
  definite_texts flags.entries

/-- A shape reads back only definite documents. -/
theorem ReadsBack.definite_shape {s : Shape} {v : Value} (h : s.codec.ReadsBack v)
    (hs : s.isDefinite = true) : Definite (s.codec.write v) :=
  Shape.definite_read s hs h.2

end Yaml.Codec

end Handover
