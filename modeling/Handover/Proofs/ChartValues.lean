import Handover.Proofs.LegacyChart

/-!
# What documents say under a path

The values of a chart and the objects of the operator are documents within documents. What a
document says under a path of field names is `Value.path?`; two lemmas, for an entry that is put
(`Entries.lookup_put`) and for a record that is written (`lookup_record`), settle it for all of
them. The sections of the values of a StatefulSet that later statements speak of are read off here
once and for all (`LegacyChart.values_sections`).
-/

namespace Handover

open Kubernetes Manifest Yaml

/-! ## Paths in documents -/

namespace Yaml

/-- The value that some field names lead to from a document. -/
def Value.path? (v : Value) : List String → Option Value
  | [] => some v
  | key :: keys => (v.field? key).bind fun inner => inner.path? keys

theorem Value.path?_map (entries : List (Value × Value)) (key : String) (keys : List String) :
    (Value.map entries).path? (key :: keys)
      = (Value.lookup key entries).bind fun inner => inner.path? keys := rfl

theorem Value.path?_append (v : Value) (keys keys' : List String) :
    v.path? (keys ++ keys') = (v.path? keys).bind fun inner => inner.path? keys' := by
  induction keys generalizing v with
  | nil => rfl
  | cons key keys ih => simp only [List.cons_append, path?, ih, Option.bind_assoc]

theorem lookup_nil (key : String) : Value.lookup key [] = none := rfl

theorem lookup_insertEntry (key key' : String) (v : Value) (entries : List (Value × Value)) :
    Value.lookup key (insertEntry (.text key') v entries)
      = if key' = key then some v else Value.lookup key entries := by
  induction entries with
  | nil => by_cases hkey : key' = key <;> simp [insertEntry, Value.lookup, hkey]
  | cons e es ih =>
    rw [insertEntry]
    by_cases he : e.1 = .text key'
    · rw [if_pos he]
      by_cases hkey : key' = key
      · simp [Value.lookup, he, hkey]
      · simp [Value.lookup, he, hkey]
    · rw [if_neg he]
      by_cases hfound : e.1 = .text key
      · have hne : key' ≠ key := by
          rintro rfl
          exact he hfound
        simp [Value.lookup, hfound, hne]
      · simpa [Value.lookup, hfound] using ih

/-! ## Records -/

/-- A record says under a name what its first field of that name holds. -/
theorem lookup_record (key : String) (fields : Fields) :
    (Value.record fields).field? key = (fields.find? fun f => f.1 = key).map (·.2) := by
  show Value.lookup key (fields.map fun f => (.text f.1, f.2)) = _
  rw [Value.lookup, List.find?_map, Option.map_map]
  simp only [Function.comp_def, Value.text.injEq]

namespace Fields

variable {α : Type} {key name : String} (c : Codec α)

theorem find?_one (a : α) :
    (one name c a).find? (fun f => f.1 = key)
      = if name = key then some (name, c.write a) else none := by
  by_cases h : name = key <;> simp [one, h]

theorem find?_opt (a : Option α) :
    (opt name c a).find? (fun f => f.1 = key)
      = if name = key then a.map fun a => (name, c.write a) else none := by
  cases a with
  | none => simp [opt]
  | some a => exact find?_one c a

theorem find?_many (empty : Bool) (a : α) :
    (many name c empty a).find? (fun f => f.1 = key)
      = if name = key ∧ empty = false then some (name, c.write a) else none := by
  cases empty with
  | true => simp [many]
  | false => simpa [many] using find?_one c a

end Fields

end Yaml

/-! ## Entries -/

namespace Manifest.Entries

variable (entries : Entries) (key key' : String)

theorem lookup_put (v : Value) :
    Value.lookup key (entries.put key' v)
      = if key' = key ∧ isVoid v = false then some v else Value.lookup key entries := by
  rw [put]
  cases isVoid v with
  | true => simp
  | false => simpa using lookup_insertEntry key key' v entries

/-- An entry under another key is not what is looked for. -/
theorem lookup_put_of_ne (v : Value) (h : key' ≠ key) :
    Value.lookup key (entries.put key' v) = Value.lookup key entries := by
  rw [lookup_put, if_neg (fun hkey => h hkey.1)]

theorem lookup_putText?_of_ne (text : Option String) (h : key' ≠ key) :
    Value.lookup key (entries.putText? key' text) = Value.lookup key entries := by
  cases text with
  | none => rfl
  | some text => exact lookup_put_of_ne entries key key' _ h

theorem lookup_putObject?_of_ne {α : Type} (c : Codec α) (a : Option α) (h : key' ≠ key) :
    Value.lookup key (entries.putObject? key' c a) = Value.lookup key entries := by
  cases a with
  | none => rfl
  | some a => exact lookup_put_of_ne entries key key' _ h

/-- Entries as a section of their own. Without any there is no section. -/
def asSection (entries : Entries) : Option Value :=
  if entries.isEmpty = false then some (.map entries) else none

/-- Entries of which one is found are a section. -/
theorem asSection_of_lookup {v : Value} (h : Value.lookup key entries = some v) :
    entries.asSection = some (.map entries) := by
  cases entries with
  | nil => cases h
  | cons e es => rfl

theorem lookup_putEntries (inner : Entries) :
    Value.lookup key (entries.putEntries key' inner)
      = if key' = key then inner.asSection.or (Value.lookup key entries)
        else Value.lookup key entries := by
  rw [putEntries, lookup_put, asSection, isVoid]
  by_cases hkey : key' = key
  · cases inner.isEmpty <;> simp [hkey]
  · simp [hkey]

/-- What a section says under a path is what its entries say. -/
theorem asSection_bind_path? (keys : List String) :
    (entries.asSection.bind fun v => v.path? (key :: keys))
      = (Value.lookup key entries).bind fun v => v.path? keys := by
  rw [asSection]
  cases entries with
  | nil => rfl
  | cons e es => rfl

/-- What a section says under a key is what its entries say there. -/
theorem path?_of_section {v : Value} {keys : List String} (h : v.path? keys = entries.asSection) :
    v.path? (keys ++ [key]) = Value.lookup key entries := by
  rw [Value.path?_append, h, asSection_bind_path?]
  exact Option.bind_fun_some _

end Manifest.Entries

/-! ## Values of a StatefulSet -/

namespace LegacyChart

open Manifest.Entries

variable {o : ClusterObservation} {trust : TrustMap} {target : Target} {chart : Yaml.Value}

theorem confValues_sections {conf : Entries} (h : confValues o = .ok conf) :
    ∃ stores, storeValues o.first = .ok stores
      ∧ Value.lookup "store" conf = stores.asSection
      ∧ Value.lookup "wal-failover" conf = (walFailoverValues o.first).asSection
      ∧ Value.lookup "log" conf = (logValues o.logging).asSection := by
  obtain ⟨stores, hstores, h⟩ := Outcome.bind_eq_ok.mp h
  obtain rfl := Outcome.pure_eq_ok.mp h
  refine ⟨stores, hstores, ?_, ?_, ?_⟩ <;>
    simp [lookup_putEntries, lookup_putText?_of_ne, putObject, lookup_put_of_ne, lookup_nil]

/-- What the values say of pods, of stores, of failover, of logging and of storage is decided by the
policy, the first node and the reference to the configuration of logging. -/
theorem values_sections (h : values o trust target = .ok chart) :
    ∃ stores, storeValues o.first = .ok stores
      ∧ chart.path? ["conf", "store"] = stores.asSection
      ∧ chart.path? ["conf", "wal-failover"] = (walFailoverValues o.first).asSection
      ∧ chart.path? ["conf", "log"] = (logValues o.logging).asSection
      ∧ chart.path? ["storage"] = (storageValues o.first).asSection
      ∧ chart.path? ["image"] = (imageValues (target.image.or o.policy.image)).asSection
      ∧ chart.path? ["statefulset"] = (podValues o).asSection := by
  obtain ⟨conf, hconf, h⟩ := Outcome.bind_eq_ok.mp h
  obtain ⟨stores, hstores, hstore, hwal, hlog⟩ := confValues_sections hconf
  have hpath (keys : List String) : chart.path? ("conf" :: keys)
      = conf.asSection.bind fun v => v.path? keys := by
    obtain rfl := Outcome.pure_eq_ok.mp h
    rw [Value.path?_map]
    simp [lookup_putEntries, lookup_putText?_of_ne, putText, lookup_put_of_ne, lookup_nil]
  have hconfPath (key : String) : chart.path? ["conf", key] = Value.lookup key conf := by
    rw [hpath, asSection_bind_path?]
    exact Option.bind_fun_some _
  refine ⟨stores, hstores, (hconfPath _).trans hstore, (hconfPath _).trans hwal,
    (hconfPath _).trans hlog, ?_, ?_, ?_⟩
  all_goals
    obtain rfl := Outcome.pure_eq_ok.mp h
    rw [Value.path?_map]
    simp [lookup_putEntries, lookup_putText?_of_ne, putText, lookup_put_of_ne, lookup_nil,
      Value.path?]

end LegacyChart

end Handover
