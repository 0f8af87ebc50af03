/-!
# Maps in key order

A map is its list of entries in strictly ascending key order. The order is part of the type,
so two maps with the same look-ups are equal, and listing a map never depends on how it was
built.
-/

namespace Handover

/-- A finite map, held as its entries in strictly ascending key order. -/
structure KeyMap (κ α : Type) [Ord κ] where
  entries : List (κ × α) := []
  ascending : entries.Pairwise (fun a b => compare a.1 b.1 = .lt) := by exact List.Pairwise.nil
  deriving Repr

namespace KeyMap

variable {κ α β : Type} [Ord κ]

/-! ## Entries in order -/

/-- Put an entry in its place, over the entry with the same key if there is one. -/
def insertEntry (k : κ) (v : α) : List (κ × α) → List (κ × α)
  | [] => [(k, v)]
  | e :: es =>
    match compare k e.1 with
    | .lt => (k, v) :: e :: es
    | .eq => (k, v) :: es
    | .gt => e :: insertEntry k v es

/-- The value of the first entry with key `k`. -/
def findEntry [DecidableEq κ] (k : κ) : List (κ × α) → Option α
  | [] => none
  | e :: es => if e.1 = k then some e.2 else findEntry k es

theorem fst_mem_insertEntry {k : κ} {v : α} {es : List (κ × α)} {e : κ × α}
    (h : e ∈ insertEntry k v es) : e = (k, v) ∨ e ∈ es := by
  induction es with
  | nil => simpa [insertEntry] using h
  | cons a as ih =>
    rw [insertEntry] at h
    split at h
    · simpa using h
    · rcases List.mem_cons.1 h with h | h
      · exact .inl h
      · exact .inr (List.mem_cons_of_mem _ h)
    · rcases List.mem_cons.1 h with h | h
      · exact .inr (h ▸ List.mem_cons_self)
      · exact (ih h).imp id (List.mem_cons_of_mem _)

theorem pairwise_insertEntry [Std.TransOrd κ] {k : κ} {v : α} {es : List (κ × α)}
    (h : es.Pairwise (fun a b => compare a.1 b.1 = .lt)) :
    (insertEntry k v es).Pairwise (fun a b => compare a.1 b.1 = .lt) := by
  induction es with
  | nil => simp [insertEntry]
  | cons a as ih =>
    obtain ⟨ha, has⟩ := List.pairwise_cons.1 h
    rw [insertEntry]
    split
    · rename_i hlt
      refine List.pairwise_cons.2 ⟨fun b hb => ?_, h⟩
      rcases List.mem_cons.1 hb with rfl | hb
      · exact hlt
      · exact Std.TransCmp.lt_trans hlt (ha b hb)
    · rename_i heq
      exact List.pairwise_cons.2
        ⟨fun b hb => Std.TransCmp.lt_of_eq_of_lt heq (ha b hb), has⟩
    · rename_i hgt
      refine List.pairwise_cons.2 ⟨fun b hb => ?_, ih has⟩
      rcases fst_mem_insertEntry hb with rfl | hb
      · exact Std.OrientedCmp.lt_of_gt hgt
      · exact ha b hb

/-! ## Operations -/

/-- The map without entries. -/
def empty : KeyMap κ α := {}

instance : EmptyCollection (KeyMap κ α) := ⟨empty⟩
instance : Inhabited (KeyMap κ α) := ⟨empty⟩

def get? [DecidableEq κ] (m : KeyMap κ α) (k : κ) : Option α := findEntry k m.entries

def contains [DecidableEq κ] (m : KeyMap κ α) (k : κ) : Bool := (m.get? k).isSome

def insert [Std.TransOrd κ] (m : KeyMap κ α) (k : κ) (v : α) : KeyMap κ α :=
  ⟨insertEntry k v m.entries, pairwise_insertEntry m.ascending⟩

/-- The entries whose key and value satisfy `p`. -/
def filter (p : κ → α → Bool) (m : KeyMap κ α) : KeyMap κ α :=
  ⟨m.entries.filter fun e => p e.1 e.2, m.ascending.filter _⟩

def erase [DecidableEq κ] (m : KeyMap κ α) (k : κ) : KeyMap κ α :=
  m.filter fun k' _ => k' ≠ k

def map (f : α → β) (m : KeyMap κ α) : KeyMap κ β :=
  ⟨m.entries.map fun e => (e.1, f e.2), by
    rw [List.pairwise_map]
    exact m.ascending⟩

def keys (m : KeyMap κ α) : List κ := m.entries.map (·.1)

def values (m : KeyMap κ α) : List α := m.entries.map (·.2)

def isEmpty (m : KeyMap κ α) : Bool := m.entries.isEmpty

/-- The map that a list of entries builds, a later entry winning over an earlier one. -/
def ofList [Std.TransOrd κ] (es : List (κ × α)) : KeyMap κ α :=
  es.foldl (fun m e => m.insert e.1 e.2) empty

instance [DecidableEq κ] [DecidableEq α] : DecidableEq (KeyMap κ α) := fun m n =>
  if h : m.entries = n.entries then
    isTrue (by cases m; cases n; cases h; rfl)
  else isFalse (fun e => h (e ▸ rfl))

/-! ## Look-ups after an operation -/

section Laws

variable [DecidableEq κ]

theorem findEntry_insertEntry_self [Std.LawfulEqOrd κ] (k : κ) (v : α) (es : List (κ × α)) :
    findEntry k (insertEntry k v es) = some v := by
  induction es with
  | nil => simp [insertEntry, findEntry]
  | cons e es ih =>
    rw [insertEntry]
    split
    · simp [findEntry]
    · simp [findEntry]
    · rename_i hgt
      have hne : e.1 ≠ k := by
        rintro rfl
        simp [Std.ReflOrd.compare_self] at hgt
      simp [findEntry, hne, ih]

theorem findEntry_insertEntry_of_ne [Std.LawfulEqOrd κ] {k k' : κ} (h : k' ≠ k) (v : α)
    (es : List (κ × α)) : findEntry k' (insertEntry k v es) = findEntry k' es := by
  induction es with
  | nil => simp [insertEntry, findEntry, h.symm]
  | cons e es ih =>
    rw [insertEntry]
    split
    · simp [findEntry, h.symm]
    · rename_i heq
      have : k = e.1 := Std.LawfulEqCmp.eq_of_compare heq
      subst this
      simp [findEntry, h.symm]
    · simp [findEntry, ih]

@[simp] theorem get?_empty (k : κ) : (empty : KeyMap κ α).get? k = none := rfl

omit [Ord κ] in
theorem mem_of_findEntry {k : κ} {v : α} {es : List (κ × α)} (h : findEntry k es = some v) :
    (k, v) ∈ es := by
  induction es with
  | nil => cases h
  | cons e es ih =>
    rw [findEntry] at h
    split at h
    · rename_i hk
      obtain rfl := Option.some.inj h
      exact hk ▸ List.mem_cons_self
    · exact List.mem_cons_of_mem _ (ih h)

/-- What is found at a key stands in the map under that key. -/
theorem mem_of_get? {m : KeyMap κ α} {k : κ} {v : α} (h : m.get? k = some v) :
    (k, v) ∈ m.entries :=
  mem_of_findEntry h

/-- What is found once a key has been taken out. -/
theorem get?_erase (m : KeyMap κ α) (k k' : κ) :
    (m.erase k).get? k' = if k' = k then none else m.get? k' := by
  change findEntry k' (m.entries.filter fun e => e.1 ≠ k)
    = if k' = k then none else findEntry k' m.entries
  induction m.entries with
  | nil => simp [findEntry]
  | cons e es ih =>
    by_cases he : e.1 = k
    · rw [List.filter_cons_of_neg (by simpa using he), ih, findEntry]
      by_cases hk : k' = k
      · rw [if_pos hk, if_pos hk]
      · rw [if_neg hk, if_neg hk, if_neg (fun heq => hk (heq.symm.trans he))]
    · rw [List.filter_cons_of_pos (by simpa using he), findEntry, findEntry, ih]
      by_cases hk : k' = k
      · rw [if_pos hk, if_pos hk, if_neg (fun heq => he (heq.trans hk))]
      · rw [if_neg hk, if_neg hk]

theorem get?_map (f : α → β) (m : KeyMap κ α) (k : κ) : (m.map f).get? k = (m.get? k).map f := by
  change findEntry k (m.entries.map fun e => (e.1, f e.2)) = (findEntry k m.entries).map f
  induction m.entries with
  | nil => rfl
  | cons e es ih => by_cases he : e.1 = k <;> simp [findEntry, he, ih]

variable [Std.TransOrd κ] [Std.LawfulEqOrd κ]

@[simp] theorem get?_insert_self (m : KeyMap κ α) (k : κ) (v : α) :
    (m.insert k v).get? k = some v :=
  findEntry_insertEntry_self k v m.entries

@[simp] theorem get?_insert_of_ne {k k' : κ} (h : k' ≠ k) (m : KeyMap κ α) (v : α) :
    (m.insert k v).get? k' = m.get? k' :=
  findEntry_insertEntry_of_ne h v m.entries

theorem get?_insert (m : KeyMap κ α) (k k' : κ) (v : α) :
    (m.insert k v).get? k' = if k' = k then some v else m.get? k' := by
  split
  · subst_vars
    simp
  · rename_i h
    simp [h]

/-- What is found after entries are put in one by one: the last one for a key, or what was found
before. -/
theorem get?_foldl_insert (f : β → κ × α) (es : List β) (m : KeyMap κ α) (k : κ) :
    (es.foldl (fun m e => m.insert (f e).1 (f e).2) m).get? k
      = ((es.reverse.find? fun e => (f e).1 = k).map fun e => (f e).2).or (m.get? k) := by
  induction es generalizing m with
  | nil => rfl
  | cons e es ih =>
    rw [List.foldl_cons, ih, get?_insert, List.reverse_cons, List.find?_append]
    cases es.reverse.find? fun e => (f e).1 = k with
    | some e' => simp
    | none => by_cases hk : k = (f e).1 <;> simp [hk, eq_comm]

end Laws

/-! ## A map is what it finds -/

section Extensionality

variable [DecidableEq κ] [Std.LawfulEqOrd κ]

omit [DecidableEq κ] in
/-- No key stands before itself. -/
theorem compare_self_ne_lt (k : κ) : compare k k ≠ .lt := by
  rw [Std.ReflOrd.compare_self]
  exact nofun

theorem findEntry_of_mem {k : κ} {v : α} {es : List (κ × α)}
    (h : es.Pairwise (fun a b => compare a.1 b.1 = .lt)) (hmem : (k, v) ∈ es) :
    findEntry k es = some v := by
  induction es with
  | nil => cases hmem
  | cons e es ih =>
    obtain ⟨hlt, h⟩ := List.pairwise_cons.1 h
    rcases List.mem_cons.1 hmem with rfl | hmem
    · simp [findEntry]
    · have hne : e.1 ≠ k := by
        rintro rfl
        exact compare_self_ne_lt _ (hlt (e.1, v) hmem)
      simp [findEntry, hne, ih h hmem]

/-- A key finds exactly what stands in the map under it. -/
theorem get?_eq_some_iff_mem {m : KeyMap κ α} {k : κ} {v : α} :
    m.get? k = some v ↔ (k, v) ∈ m.entries :=
  ⟨mem_of_get?, findEntry_of_mem m.ascending⟩

/-- The last entry for a key is the one that the key finds. -/
theorem find?_reverse_entries (m : KeyMap κ α) (k : κ) :
    (m.entries.reverse.find? fun e => e.1 = k).map (·.2) = m.get? k := by
  cases hfind : m.entries.reverse.find? fun e => e.1 = k with
  | none =>
    cases hget : m.get? k with
    | none => rfl
    | some v =>
      rw [List.find?_eq_none] at hfind
      have hmem := List.mem_reverse.2 (mem_of_get? hget)
      simpa using hfind _ hmem
  | some e =>
    have hkey : e.1 = k := by simpa using List.find?_some hfind
    have hmem := List.mem_reverse.1 (List.mem_of_find?_eq_some hfind)
    rw [Option.map_some, eq_comm, get?_eq_some_iff_mem, ← hkey]
    exact hmem

omit [DecidableEq κ] in
theorem nodup_entries (m : KeyMap κ α) : m.entries.Nodup :=
  m.ascending.imp fun hlt heq => by
    rw [heq] at hlt
    exact compare_self_ne_lt _ hlt

variable [Std.TransOrd κ]

/-- Maps with the same look-ups are equal. -/
theorem ext_get? {m n : KeyMap κ α} (h : ∀ k, m.get? k = n.get? k) : m = n := by
  have hmem (e : κ × α) : e ∈ m.entries ↔ e ∈ n.entries := by
    rw [← get?_eq_some_iff_mem (m := m), h, get?_eq_some_iff_mem]
  have hperm : m.entries.Perm n.entries :=
    (List.perm_ext_iff_of_nodup m.nodup_entries n.nodup_entries).2 hmem
  have heq : m.entries = n.entries := by
    refine hperm.eq_of_pairwise (fun a b _ _ hab hba => ?_) m.ascending n.ascending
    exact absurd (Std.TransCmp.lt_trans hab hba) (compare_self_ne_lt a.1)
  cases m
  cases n
  cases heq
  rfl

/-- Putting in what is there already changes nothing. -/
theorem insert_eq_self_iff {m : KeyMap κ α} {k : κ} {v : α} :
    m.insert k v = m ↔ m.get? k = some v := by
  constructor
  · intro h
    rw [← h, get?_insert_self]
  · intro h
    refine ext_get? fun k' => ?_
    rw [get?_insert]
    split
    · rename_i hk
      rw [hk, h]
    · rfl

end Extensionality

end KeyMap

end Handover
