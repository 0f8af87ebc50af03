import Handover.Json.Value
import Handover.Yaml.Codec

/-!
# Flags that are passed on

Flags of a start command that have no meaning here, by name, in the order in which each name
was first seen. Giving a flag again replaces its value and keeps its place. That the names are
distinct is part of the type.
-/

namespace Handover

/-- Put a value at a name: in the name's place, or at the end. -/
def setFlag (name value : String) : List (String × String) → List (String × String)
  | [] => [(name, value)]
  | e :: es => if e.1 = name then (name, value) :: es else e :: setFlag name value es

theorem mem_names_setFlag {name value x : String} {es : List (String × String)} :
    x ∈ (setFlag name value es).map (·.1) ↔ x = name ∨ x ∈ es.map (·.1) := by
  induction es with
  | nil => simp [setFlag]
  | cons e es ih =>
    rw [setFlag]
    split
    · rename_i h
      simp [← h]
    · simp only [List.map_cons, List.mem_cons, ih]
      constructor
      · rintro (h | h | h) <;> simp [h]
      · rintro (h | h | h) <;> simp [h]

theorem nodup_names_setFlag {name value : String} {es : List (String × String)}
    (h : (es.map (·.1)).Nodup) : ((setFlag name value es).map (·.1)).Nodup := by
  induction es with
  | nil => simp [setFlag]
  | cons e es ih =>
    obtain ⟨he, hes⟩ := List.nodup_cons.1 h
    rw [setFlag]
    split
    · rename_i hname
      rw [List.map_cons, List.nodup_cons]
      exact ⟨hname ▸ he, hes⟩
    · rename_i hname
      rw [List.map_cons, List.nodup_cons, mem_names_setFlag, not_or]
      exact ⟨⟨hname, he⟩, ih hes⟩

/-- Flags by name in the order of their first occurrence. -/
structure ExtraFlags where
  entries : List (String × String) := []
  nodup : (entries.map (·.1)).Nodup := by exact List.nodup_nil
  deriving Repr

namespace ExtraFlags

instance : Inhabited ExtraFlags := ⟨{}⟩

instance : DecidableEq ExtraFlags := fun a b =>
  if h : a.entries = b.entries then
    isTrue (by cases a; cases b; cases h; rfl)
  else isFalse (fun e => h (e ▸ rfl))

/-- Flags are their entries. -/
theorem ext_entries {a b : ExtraFlags} (h : a.entries = b.entries) : a = b := by
  cases a
  cases b
  cases h
  rfl

def insert (flags : ExtraFlags) (name value : String) : ExtraFlags :=
  ⟨setFlag name value flags.entries, nodup_names_setFlag flags.nodup⟩

def get? (flags : ExtraFlags) (name : String) : Option String :=
  (flags.entries.find? (·.1 = name)).map (·.2)

def size (flags : ExtraFlags) : Nat := flags.entries.length

def isEmpty (flags : ExtraFlags) : Bool := flags.entries.isEmpty

/-- The flags that a list of entries builds, one after the other. -/
def ofList (entries : List (String × String)) : ExtraFlags :=
  entries.foldl (fun flags e => flags.insert e.1 e.2) {}

/-- One word for each flag; a flag without a value stands alone. -/
def toArgs (flags : ExtraFlags) : List String :=
  flags.entries.map fun (name, value) => if value.isEmpty then name else s!"{name}={value}"

/-- The codec of flags: a mapping in their order. -/
def codec : Yaml.Codec ExtraFlags where
  read v := do
    let entries ← (← Yaml.Fields.ofValue v).mapM fun (name, value) =>
      (name, ·) <$> Yaml.Codec.text.read value
    return ofList entries
  write flags := Yaml.Value.record (flags.entries.map fun (name, value) => (name, .text value))

/-- The flags of a JSON object whose members are all texts. A name may occur several times. -/
def ofJson? : Json → Option ExtraFlags
  | .object members => do
    let entries ← members.mapM fun
      | (name, .text value) => some (name, value)
      | _ => none
    return ofList entries
  | _ => none

def toJson (flags : ExtraFlags) : Json :=
  .object (flags.entries.map fun (name, value) => (name, .text value))

end ExtraFlags

end Handover
