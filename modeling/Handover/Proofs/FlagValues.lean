import Handover.Proofs.ValuesKept

/-!
# What values of flags mean

A value is a text, and which port, truth value or list the text stands for is said here of the text
alone: a port by its numeral, nodes and tiers by the entries between commas. Reading a value comes
to just that (`readPort_eq_ok`, `readBool_eq_ok`, `readJoin_eq_iff`, `readLocality_eq_ok`), so no
text stands for two things.
-/

namespace Handover

namespace StartCommand

open Text

variable {text value flag : String}

/-! ## Ports -/

/-- A text that stands for a port: a numeral from 1 to 65535. -/
def DenotesPort (text : String) (port : UInt16) : Prop :=
  Denotes text port.toNat ∧ 0 < port.toNat

theorem DenotesPort.unique {port port' : UInt16} (h : DenotesPort text port)
    (h' : DenotesPort text port') : port' = port :=
  UInt16.toNat_inj.mp (h'.1.unique h.1)

theorem readPort_eq_ok {port : UInt16} :
    readPort flag value = .ok port ↔ DenotesPort value port := by
  constructor
  · intro h
    obtain ⟨-, h⟩ := Outcome.check_eq_ok.mp h
    split at h
    · rename_i n hn
      obtain ⟨hdenotes, hle⟩ := readUnsigned_eq_some_iff.mp hn
      split at h
      · rename_i hpos
        obtain rfl := Except.ok.inj h
        have hn : (UInt16.ofNat n).toNat = n := by
          rw [UInt16.toNat_ofNat', Nat.mod_eq_of_lt (Nat.lt_of_le_of_lt hle (by decide))]
        rw [DenotesPort, hn]
        exact ⟨hdenotes, hpos⟩
      · cases h
    · cases h
  · rintro ⟨hdenotes, hpos⟩
    have hle : port.toNat ≤ maxWord16 := Nat.le_of_lt_succ port.toNat_lt
    rw [readPort, hasSubstitution_of_denotes hdenotes, if_neg Bool.false_ne_true,
      readUnsigned_eq_some_iff.mpr ⟨hdenotes, hle⟩]
    dsimp only
    rw [if_pos hpos, UInt16.ofNat_toNat]

/-- The text of the port of an address, when the address carries one. -/
def portText? (address : String) : Option String :=
  (cutLast? ':' address).bind fun (_, port) => if endsWith port "]" then none else some port

/-- A port that is given alone. -/
def readAlone (flag value : String) : Outcome (Option UInt16) := some <$> readPort flag value

theorem readAlone_eq_ok {port? : Option UInt16} :
    readAlone flag value = .ok port? ↔ Option.Rel DenotesPort (some value) port? := by
  have hread : readAlone flag value = .ok port? ↔
      ∃ port, readPort flag value = .ok port ∧ some port = port? := Outcome.map_eq_ok
  rw [hread]
  constructor
  · rintro ⟨port, hport, rfl⟩
    exact .some (readPort_eq_ok.mp hport)
  · rintro (hport | _)
    exact ⟨_, readPort_eq_ok.mpr hport, rfl⟩

theorem readAddressPort_eq_ok {port? : Option UInt16} :
    readAddressPort flag value = .ok port? ↔ Option.Rel DenotesPort (portText? value) port? := by
  have hnone : (.ok none : Outcome (Option UInt16)) = .ok port? ↔
      Option.Rel DenotesPort none port? := by
    constructor
    · rintro ⟨⟩
      exact .none
    · rintro (_ | _)
      rfl
  unfold readAddressPort portText?
  cases hcut : cutLast? ':' value with
  | none => exact hnone
  | some cut =>
    obtain ⟨host, port⟩ := cut
    dsimp only [Option.bind_some]
    cases endsWith port "]" with
    | true => exact hnone
    | false => exact readAlone_eq_ok

/-! ## Truth values -/

/-- A text that stands for a truth value; an empty one stands for true. -/
inductive DenotesBool : String → Bool → Prop
  | empty : DenotesBool "" true
  | yes : DenotesBool "true" true
  | no : DenotesBool "false" false

theorem readBool_eq_ok {b : Bool} : readBool flag value = .ok b ↔ DenotesBool value b := by
  constructor
  · intro h
    unfold readBool at h
    split at h
    · rename_i hvalue
      obtain rfl := Except.ok.inj h
      rcases hvalue with rfl | rfl
      · exact .empty
      · exact .yes
    · split at h
      · rename_i hvalue
        obtain rfl := Except.ok.inj h
        exact hvalue ▸ .no
      · cases h
  · rintro (_ | _ | _) <;> rfl

theorem DenotesBool.unique {b b' : Bool} (h : DenotesBool text b) (h' : DenotesBool text b') :
    b' = b := by
  have hread : readBool "" text = .ok b := readBool_eq_ok.mpr h
  have hread' : readBool "" text = .ok b' := readBool_eq_ok.mpr h'
  exact Except.ok.inj (hread'.symm.trans hread)

/-! ## Entries between commas -/

/-- A text that lists entries: these make it up with commas between them, and there is no comma in
any of them. -/
structure ListsEntries (text : String) (entries : List String) : Prop where
  joined : join "," entries = text
  some : entries ≠ []
  whole : ∀ entry ∈ entries, ',' ∉ entry.toList

theorem listsEntries_iff {entries : List String} :
    ListsEntries text entries ↔ entries = split ',' text := by
  constructor
  · rintro ⟨rfl, hsome, hwhole⟩
    exact (split_join (by decide) hsome hwhole).symm
  · rintro rfl
    exact ⟨join_split text, split_ne_nil ',' text, fun entry hentry => notMem_of_mem_split hentry⟩

theorem isEmpty_eq_decide : (fun s : String => !s.isEmpty) = fun s => decide (s ≠ "") := by
  funext s
  exact Bool.eq_iff_iff.mpr (by simp)

/-- A text that names nodes: the entries that it lists without the blanks at their ends, but for
those of which nothing is left. -/
def DenotesNodes (text : String) (nodes : List String) : Prop :=
  ∃ entries, ListsEntries text entries ∧ nodes = (entries.map trim).filter (· ≠ "")

theorem readJoin_eq_iff {nodes : List String} :
    readJoin text = nodes ↔ DenotesNodes text nodes := by
  simp only [DenotesNodes, listsEntries_iff, exists_eq_left, readJoin, isEmpty_eq_decide]
  exact eq_comm

theorem DenotesNodes.unique {nodes nodes' : List String} (h : DenotesNodes text nodes)
    (h' : DenotesNodes text nodes') : nodes' = nodes :=
  (readJoin_eq_iff.mpr h').symm.trans (readJoin_eq_iff.mpr h)

/-- A text that names the tiers of a locality: the entries that it lists, but for empty ones, each
divided at its first equals sign. -/
def DenotesTiers (text : String) (tiers : List (String × String)) : Prop :=
  ∃ entries, ListsEntries text entries
    ∧ tiers.map (fun (tier, value) => s!"{tier}={value}") = entries.filter (· ≠ "")
    ∧ ∀ e ∈ tiers, '=' ∉ e.1.toList

theorem readTier_eq_ok {e : String × String} :
    readTier text = .ok e ↔ text = s!"{e.1}={e.2}" ∧ '=' ∉ e.1.toList :=
  Outcome.required_eq_ok.trans cutFirst?_joined_iff

theorem readLocality_eq_ok {tiers : List (String × String)} :
    readLocality text = .ok tiers ↔ DenotesTiers text tiers := by
  simp only [DenotesTiers, listsEntries_iff, exists_eq_left, readLocality, isEmpty_eq_decide,
    Outcome.mapM_eq_ok, readTier_eq_ok]
  exact forall₂_eq_map_iff

theorem DenotesTiers.unique {tiers tiers' : List (String × String)} (h : DenotesTiers text tiers)
    (h' : DenotesTiers text tiers') : tiers' = tiers :=
  Except.ok.inj ((readLocality_eq_ok.mpr h').symm.trans (readLocality_eq_ok.mpr h))

end StartCommand

end Handover
