import Handover.Proofs.Numerals
import Handover.Proofs.PassedOn
import Handover.Proofs.Paths

/-!
# What becomes of values

The values of a start command that are no ports, addresses or truth values are texts, in which
substitutions may stand. Of these only a locality has a form for which a command can be refused
(`exists_parse_iff`). The others come through as they were given, but the nodes to join and a
locality are taken apart at their commas, also at those in substitutions. What they are put
together to again is the same text when nothing was left out (`parse_values`).
-/

namespace Handover

namespace Text

/-! ## Pieces between commas -/

theorem splitChars_eq_splitOn (sep : Char) (cs : List Char) :
    splitChars sep cs = cs.splitOn sep := by
  induction cs with
  | nil => rfl
  | cons c cs ih =>
    rw [splitChars, List.splitOn_cons_eq_if_modifyHead, ← ih]
    simp only [beq_iff_eq]
    obtain ⟨run, runs, hruns⟩ := List.exists_cons_of_ne_nil (splitChars_ne_nil sep cs)
    rw [hruns]
    rfl

/-- The pieces between commas make up the text again. -/
theorem join_split (s : String) : join "," (split ',' s) = s := by
  rw [← String.toList_inj, join, String.toList_intercalate, split, List.map_map]
  have hpieces : (String.toList ∘ String.ofList) = (id : List Char → List Char) := by
    funext cs
    exact String.toList_ofList
  rw [hpieces, List.map_id, splitChars_eq_splitOn]
  exact List.intercalate_splitOn ','

/-- What pieces take up when each is followed by a comma. -/
def extent : List String → Nat
  | [] => 0
  | piece :: pieces => piece.length + 1 + extent pieces

theorem length_join : ∀ {pieces : List String}, pieces ≠ [] →
    (join "," pieces).length + 1 = extent pieces
  | [piece], _ => by simp [join, extent]
  | piece :: next :: pieces, _ => by
    have ih := length_join (List.cons_ne_nil next pieces)
    rw [join, String.intercalate_cons_cons, String.length_append, String.length_append]
    have hcomma : ",".length = 1 := rfl
    rw [join] at ih
    rw [extent, ← ih]
    omega

/-- Pieces that are shortened, and left out when they are empty, take up less, unless nothing
happens to them. -/
theorem extent_filter_map_le {f : String → String} (hf : ∀ piece, (f piece).length ≤ piece.length)
    (pieces : List String) :
    extent ((pieces.map f).filter fun piece => !piece.isEmpty) ≤ extent pieces
      ∧ (extent ((pieces.map f).filter fun piece => !piece.isEmpty) = extent pieces →
        ∀ piece ∈ pieces, f piece ≠ "" ∧ (f piece).length = piece.length) := by
  induction pieces with
  | nil => exact ⟨Nat.le_refl _, fun _ => nofun⟩
  | cons piece pieces ih =>
    obtain ⟨hle, heq⟩ := ih
    have hpiece := hf piece
    rw [List.map_cons, List.forall_mem_cons, extent]
    by_cases hempty : f piece = ""
    · rw [List.filter_cons_of_neg (by simp [hempty])]
      exact ⟨by omega, fun h => by omega⟩
    · rw [List.filter_cons_of_pos (by simpa using hempty), extent]
      exact ⟨by omega, fun h => ⟨⟨hempty, by omega⟩, heq (by omega)⟩⟩

/-- Pieces of a text that are shortened, and left out when they are empty, make up the text again
only when nothing happens to them. -/
theorem join_filter_map_split {f : String → String}
    (hf : ∀ piece, (f piece).length ≤ piece.length) {s : String} (hs : s ≠ "")
    (h : join "," (((split ',' s).map f).filter fun piece => !piece.isEmpty) = s) :
    ∀ piece ∈ split ',' s, f piece ≠ "" ∧ (f piece).length = piece.length := by
  refine (extent_filter_map_le hf _).2 ?_
  have hne : ((split ',' s).map f).filter (fun piece => !piece.isEmpty) ≠ [] := by
    intro hnil
    rw [hnil] at h
    exact hs h.symm
  rw [← length_join hne, ← length_join (split_ne_nil ',' s), h, join_split]

theorem trim_sublist (s : String) : (trim s).toList.Sublist s.toList := by
  rw [trim, String.toList_ofList]
  have hback := (List.dropWhile_sublist (l := (s.toList.dropWhile isBlank).reverse) isBlank).reverse
  rw [List.reverse_reverse] at hback
  exact hback.trans (List.dropWhile_sublist isBlank)

theorem length_trim_le (s : String) : (trim s).length ≤ s.length := by
  rw [← String.length_toList, ← String.length_toList]
  exact (trim_sublist s).length_le

theorem trim_eq_of_length {s : String} (h : (trim s).length = s.length) : trim s = s := by
  rw [← String.length_toList, ← String.length_toList] at h
  exact String.toList_inj.mp ((trim_sublist s).eq_of_length h)

/-! ## Characters of a text -/

theorem mem_of_hasInfix {p : Char} {ps cs : List Char} (h : hasInfix (p :: ps) cs = true) :
    p ∈ cs := by
  induction cs with
  | nil => cases h
  | cons c cs ih =>
    rw [hasInfix, Bool.or_eq_true] at h
    rcases h with h | h
    · rw [List.isPrefixOf_cons_cons, Bool.and_eq_true, beq_iff_eq] at h
      exact h.1 ▸ List.mem_cons_self
    · exact List.mem_cons_of_mem c (ih h)

end Text

theorem ExtraFlags.get?_insert (flags : ExtraFlags) (name value name' : String) :
    (flags.insert name value).get? name'
      = if name = name' then some value else flags.get? name' := by
  rw [ExtraFlags.get?, ExtraFlags.get?, ExtraFlags.insert]
  dsimp only
  induction flags.entries with
  | nil => by_cases h : name = name' <;> simp [setFlag, h]
  | cons e es ih =>
    rw [setFlag]
    by_cases hname : e.1 = name
    · by_cases h : name = name' <;> simp [hname, h]
    · rw [if_neg hname, List.find?_cons, List.find?_cons]
      by_cases h : e.1 = name'
      · simp [h, Ne.symm (h ▸ hname)]
      · simpa [h] using ih

namespace StartCommand

open Text

/-- The nodes to join make up what was given when none of the entries is empty or has blanks at its
ends. -/
theorem join_readJoin_iff {value : String} :
    join "," (readJoin value) = value ↔
      value = "" ∨ ∀ entry ∈ split ',' value, entry ≠ "" ∧ trim entry = entry := by
  constructor
  · intro h
    by_cases hvalue : value = ""
    · exact .inl hvalue
    · refine .inr fun entry hentry => ?_
      obtain ⟨hne, hlength⟩ := join_filter_map_split length_trim_le hvalue h entry hentry
      have htrim := trim_eq_of_length hlength
      exact ⟨htrim ▸ hne, htrim⟩
  · rintro (rfl | h)
    · decide
    · have hmap : (split ',' value).map trim = split ',' value :=
        (List.map_congr_left fun entry hentry => (h entry hentry).2).trans (List.map_id _)
      have hall : ∀ entry ∈ split ',' value, (!entry.isEmpty) = true := fun entry hentry => by
        simpa using (h entry hentry).1
      rw [readJoin, hmap, List.filter_eq_self.mpr hall, join_split]

/-- The tiers of a locality are its pieces that are not empty. -/
theorem map_tiers_of_readLocality {value : String} {tiers : List (String × String)}
    (h : readLocality value = .ok tiers) :
    tiers.map (fun (tier, value) => s!"{tier}={value}")
      = (split ',' value).filter fun tier => !tier.isEmpty := by
  have hread := (Outcome.mapM_eq_ok.mp h).imp fun piece tier htier =>
    (cutFirst?_joined_iff.mp (Outcome.required_eq_ok.mp htier)).1
  have heq : List.Forall₂ Eq ((split ',' value).filter fun tier => !tier.isEmpty)
      (tiers.map fun (tier, value) => s!"{tier}={value}") :=
    List.forall₂_map_right_iff.mpr hread
  rw [List.forall₂_eq_eq_eq] at heq
  exact heq.symm

/-- A locality comes back as it was given when none of its tiers is empty. -/
theorem localityFlag?_iff {value : String} {flags : StartFlags}
    (h : readLocality value = .ok flags.locality) :
    flags.localityFlag? = some value ↔ ∀ tier ∈ split ',' value, tier ≠ "" := by
  have htiers := map_tiers_of_readLocality h
  rw [StartFlags.localityFlag?]
  cases hempty : flags.locality.isEmpty with
  | true =>
    rw [List.isEmpty_iff.mp hempty, List.map_nil] at htiers
    have hnone := List.filter_eq_nil_iff.mp htiers.symm
    obtain ⟨tier, tiers, hsplit⟩ := List.exists_cons_of_ne_nil (split_ne_nil ',' value)
    have htier : tier ∈ split ',' value := hsplit ▸ List.mem_cons_self
    exact ⟨nofun, fun hall => absurd (hall tier htier) (by simpa using hnone tier htier)⟩
  | false =>
    rw [if_neg Bool.false_ne_true, Option.some.injEq, htiers]
    constructor
    · intro hjoin tier htier
      have hvalue : value ≠ "" := by
        rintro rfl
        rw [show (split ',' "").filter (fun tier => !tier.isEmpty) = [] from rfl,
          List.map_eq_nil_iff] at htiers
        rw [htiers] at hempty
        cases hempty
      rw [← List.map_id (split ',' value)] at hjoin
      exact (join_filter_map_split (fun _ => Nat.le_refl _) hvalue hjoin tier htier).1
    · intro hall
      rw [List.filter_eq_self.mpr fun tier htier => by simpa using hall tier htier, join_split]

/-! ## Values that can be read -/

/-- A numeral for a port. -/
def IsPort (value : String) : Prop := ∃ n, Denotes value n ∧ 0 < n ∧ n ≤ maxWord16

/-- A flag whose value can be read. Of the values that are texts only a locality has a form. -/
structure Readable (name value : String) : Prop where
  port : name ∈ ["--port", "--http-port"] → IsPort value
  address : name ∈ ["--sql-addr", "--listen-addr", "--http-addr"] →
    ∀ host port, cutLast? ':' value = some (host, port) → endsWith port "]" = false → IsPort port
  insecure : name = "--insecure" → value ∈ ["", "true", "false"]
  locality : name = "--locality" → ∀ tier ∈ split ',' value, tier ≠ "" → '=' ∈ tier.toList

/-- There is no substitution in a numeral. -/
theorem hasSubstitution_of_denotes {value : String} {n : Nat} (h : Denotes value n) :
    hasSubstitution value = false := by
  have hdollar : '$' ∉ value.toList := by
    obtain ⟨sign, hsign, zeros, hvalue⟩ := h
    rw [hvalue, List.mem_append, not_or]
    constructor
    · rcases List.mem_cons.mp hsign with rfl | hsign
      · decide
      · obtain rfl := List.mem_singleton.mp hsign
        decide
    · intro hdigit
      exact absurd (isDigit_of_mem_numeral hdigit) (by decide)
  rw [hasSubstitution, Bool.or_eq_false_iff]
  exact ⟨Bool.eq_false_iff.mpr fun h => hdollar (mem_of_hasInfix h),
    Bool.eq_false_iff.mpr fun h => hdollar (mem_of_hasInfix h)⟩

/-- A value with a substitution is refused before it is read, and is no numeral anyway. -/
theorem exists_readPort_iff (flag : String) {value : String} :
    (∃ port, readPort flag value = .ok port) ↔ IsPort value := by
  constructor
  · rintro ⟨port, h⟩
    obtain ⟨-, h⟩ := Outcome.check_eq_ok.mp h
    split at h
    · rename_i n hn
      obtain ⟨hdenotes, hle⟩ := readUnsigned_eq_some_iff.mp hn
      split at h
      · rename_i hpos
        exact ⟨n, hdenotes, hpos, hle⟩
      · cases h
    · cases h
  · rintro ⟨n, hdenotes, hpos, hle⟩
    refine ⟨UInt16.ofNat n, ?_⟩
    rw [readPort, hasSubstitution_of_denotes hdenotes, if_neg Bool.false_ne_true,
      readUnsigned_eq_some_iff.mpr ⟨hdenotes, hle⟩]
    exact if_pos hpos

theorem exists_readAddressPort_iff {flag value : String} :
    (∃ port, readAddressPort flag value = .ok port) ↔
      ∀ host port, cutLast? ':' value = some (host, port) → endsWith port "]" = false →
        IsPort port := by
  unfold readAddressPort
  cases hcut : cutLast? ':' value with
  | none => exact ⟨fun _ _ _ => nofun, fun _ => ⟨none, rfl⟩⟩
  | some cut =>
    obtain ⟨host, port⟩ := cut
    have hiff : (∀ host' port', some (host, port) = some (host', port') →
        endsWith port' "]" = false → IsPort port')
        ↔ (endsWith port "]" = false → IsPort port) := by
      constructor
      · exact fun h => h host port rfl
      · rintro h host' port' heq
        obtain ⟨rfl, rfl⟩ := Prod.mk.inj (Option.some.inj heq)
        exact h
    rw [hiff]
    dsimp only
    cases endsWith port "]" with
    | true => exact ⟨fun _ => nofun, fun _ => ⟨none, rfl⟩⟩
    | false =>
      rw [forall_prop_of_true rfl, ← exists_readPort_iff flag, if_neg Bool.false_ne_true]
      exact Outcome.exists_return_iff

theorem exists_readBool_iff {flag value : String} :
    (∃ b, readBool flag value = .ok b) ↔ value ∈ ["", "true", "false"] := by
  have hmem : value ∈ ["", "true", "false"] ↔ (value = "" ∨ value = "true") ∨ value = "false" := by
    simp [or_assoc]
  rw [hmem, readBool]
  by_cases htrue : value = "" ∨ value = "true"
  · simp [htrue]
  · by_cases hfalse : value = "false" <;> simp [htrue, hfalse]

theorem exists_readLocality_iff {value : String} :
    (∃ tiers, readLocality value = .ok tiers) ↔
      ∀ tier ∈ split ',' value, tier ≠ "" → '=' ∈ tier.toList := by
  have htier {tier : String} : (∃ e, readTier tier = .ok e) ↔ '=' ∈ tier.toList := by
    rw [← not_iff_not, ← cutFirst?_eq_none_iff]
    cases hcut : cutFirst? '=' tier <;> simp [readTier, hcut]
  simp only [readLocality, Outcome.exists_mapM_eq_ok, htier, List.mem_filter, and_imp]
  simp

theorem exists_addFlag_iff {s : Settled} {name value : String} :
    (∃ s', s.addFlag name value = .ok s') ↔ Readable name value := by
  unfold Settled.addFlag
  split
  -- the last case is a flag without a meaning, for which nothing is read
  case h_13 hport hsql hlisten hhttp haddr hjoin hinsecure hlocality hwal hstore hs hlog =>
    have hports : name ∉ ["--port", "--http-port"] := by simpa using ⟨hport, hhttp⟩
    have haddresses : name ∉ ["--sql-addr", "--listen-addr", "--http-addr"] := by
      simpa using ⟨hsql, hlisten, haddr⟩
    refine iff_of_true ?_ ⟨fun h => absurd h hports, fun h => absurd h haddresses,
      fun h => absurd h hinsecure, fun h => absurd h hlocality⟩
    split <;> exact ⟨_, rfl⟩
  all_goals first
    | exact iff_of_true ⟨_, rfl⟩ ⟨by simp, by simp, by simp, by simp⟩
    | exact Outcome.exists_return_iff.trans <| (exists_readPort_iff _).trans
        ⟨fun h => ⟨fun _ => h, by simp, by simp, by simp⟩, fun h => h.port (by simp)⟩
    | exact Outcome.exists_return_iff.trans <| exists_readAddressPort_iff.trans
        ⟨fun h => ⟨by simp, fun _ => h, by simp, by simp⟩, fun h => h.address (by simp)⟩
    | exact Outcome.exists_return_iff.trans <| exists_readBool_iff.trans
        ⟨fun h => ⟨by simp, by simp, fun _ => h, by simp⟩, fun h => h.insecure rfl⟩
    | exact Outcome.exists_return_iff.trans <| exists_readLocality_iff.trans
        ⟨fun h => ⟨by simp, by simp, by simp, fun _ => h⟩, fun h => h.locality rfl⟩

theorem exists_addAll_iff {read : List (String × String)} {s : Settled} :
    (∃ s', (read.map fun e => .flag e.1 e.2).foldlM Settled.add s = .ok s') ↔
      ∀ e ∈ read, Readable e.1 e.2 := by
  induction read generalizing s with
  | nil => exact iff_of_true ⟨s, rfl⟩ nofun
  | cons e read ih =>
    simp only [List.map_cons, List.foldlM_cons, Outcome.bind_eq_ok, List.forall_mem_cons]
    constructor
    · rintro ⟨s', s₁, hfirst, hrest⟩
      exact ⟨exists_addFlag_iff.mp ⟨s₁, hfirst⟩, ih.mp ⟨s', hrest⟩⟩
    · rintro ⟨hfirst, hrest⟩
      obtain ⟨s₁, hs₁⟩ := (exists_addFlag_iff (s := s)).mpr hfirst
      obtain ⟨s', hs'⟩ := (ih (s := s₁)).mpr hrest
      exact ⟨s', s₁, hs₁, hs'⟩

/-! ## What values settle -/

/-- The value that a flag was given last. -/
def lastValue? (read : List (String × String)) (name : String) : Option String :=
  (read.reverse.find? (·.1 = name)).map (·.2)

theorem lastValue?_concat (read : List (String × String)) (name value name' : String) :
    lastValue? (read ++ [(name, value)]) name'
      = if name = name' then some value else lastValue? read name' := by
  rw [lastValue?, List.reverse_concat, List.find?_cons]
  by_cases h : name = name' <;> simp [h, lastValue?]

/-- What one more flag settles. -/
structure Settled.Adds (s : Settled) (name value : String) (s' : Settled) : Prop where
  stores : s'.stores = if name ∈ ["--store", "-s"] then s.stores ++ [value] else s.stores
  walFailover : s'.walFailover = if name = "--wal-failover" then some value else s.walFailover
  logConfigFile :
    s'.logConfigFile = if name = "--log-config-file" then some value else s.logConfigFile
  join : s'.join = if name = "--join" then readJoin value else s.join
  locality : if name = "--locality" then readLocality value = .ok s'.locality
    else s'.locality = s.locality

theorem adds_of_addFlag {s s' : Settled} {name value : String} (h : s.addFlag name value = .ok s') :
    s.Adds name value s' := by
  unfold Settled.addFlag at h
  split at h
  -- a flag without a meaning settles none of the five, whether it is passed on or dropped
  case h_13 hport hsql hlisten hhttp haddr hjoin hinsecure hlocality hwal hstore hs hlog =>
    have hnone : name ∉ ["--store", "-s"] := by simpa using ⟨hstore, hs⟩
    split at h
    all_goals
      obtain rfl := Except.ok.inj h
      exact ⟨(if_neg hnone).symm, (if_neg hwal).symm, (if_neg hlog).symm, (if_neg hjoin).symm,
        (if_neg hlocality).mpr rfl⟩
  -- of the values that are taken apart only that of a locality stays in sight
  case h_8 =>
    obtain ⟨tiers, htiers, h⟩ := Outcome.bind_eq_ok.mp h
    obtain rfl := Outcome.pure_eq_ok.mp h
    exact ⟨by simp, by simp, by simp, by simp, by simpa using htiers⟩
  all_goals first
    | obtain rfl := Except.ok.inj h
      exact ⟨by simp, by simp, by simp, by simp, by simp⟩
    | obtain ⟨a, -, h⟩ := Outcome.bind_eq_ok.mp h
      obtain rfl := Outcome.pure_eq_ok.mp h
      exact ⟨by simp, by simp, by simp, by simp, by simp⟩

/-- What the values that were read have settled. -/
structure Settles (read : List (String × String)) (s : Settled) : Prop where
  stores : s.stores = (read.filter fun e => e.1 ∈ ["--store", "-s"]).map (·.2)
  walFailover : s.walFailover = lastValue? read "--wal-failover"
  logConfigFile : s.logConfigFile = lastValue? read "--log-config-file"
  join : ∀ value, lastValue? read "--join" = some value → s.join = readJoin value
  locality : ∀ value, lastValue? read "--locality" = some value →
    readLocality value = .ok s.locality
  extra : ∀ name, isPassedOn name = true → s.extra.get? name = lastValue? read name

theorem settles_nil : Settles [] {} where
  stores := rfl
  walFailover := rfl
  logConfigFile := rfl
  join := nofun
  locality := nofun
  extra _ _ := rfl

theorem Settles.add {seen : List (String × String)} {s s' : Settled} {name value : String}
    (h : Settles seen s) (hadd : s.addFlag name value = .ok s') :
    Settles (seen ++ [(name, value)]) s' := by
  have hadds := adds_of_addFlag hadd
  constructor
  case stores =>
    rw [hadds.stores, h.stores, List.filter_append, List.map_append]
    by_cases hname : name ∈ ["--store", "-s"]
    · rw [if_pos hname, List.filter_cons_of_pos (by simpa using hname)]
      rfl
    · rw [if_neg hname, List.filter_cons_of_neg (by simpa using hname)]
      exact (List.append_nil _).symm
  case walFailover => rw [hadds.walFailover, h.walFailover, lastValue?_concat]
  case logConfigFile => rw [hadds.logConfigFile, h.logConfigFile, lastValue?_concat]
  case join =>
    intro value' hlast
    rw [lastValue?_concat] at hlast
    rw [hadds.join]
    by_cases hname : name = "--join"
    · rw [if_pos hname] at hlast ⊢
      rw [Option.some.inj hlast]
    · rw [if_neg hname] at hlast ⊢
      exact h.join value' hlast
  case locality =>
    intro value' hlast
    have hlocality := hadds.locality
    rw [lastValue?_concat] at hlast
    by_cases hname : name = "--locality"
    · rw [if_pos hname] at hlast hlocality
      rwa [← Option.some.inj hlast]
    · rw [if_neg hname] at hlast hlocality
      rw [hlocality]
      exact h.locality value' hlast
  case extra =>
    intro name' hpassed
    rw [extra_of_addFlag hadd, lastValue?_concat, ← h.extra name' hpassed]
    split
    · exact ExtraFlags.get?_insert _ _ _ _
    · rename_i hskipped
      rw [if_neg]
      rintro rfl
      exact hskipped hpassed

/-- A command is refused only for a value that cannot be read. -/
theorem exists_parse_iff {parts words : List String} {read : List (String × String)}
    (hwords : Follows (tokenize parts) words) (hread : Reads words read) :
    (∃ flags, parse parts = .ok flags) ↔ ∀ e ∈ read, Readable e.1 e.2 := by
  rw [← exists_addAll_iff (s := {}), ← reads_iff.mp hread, ← follows_iff.mp hwords]
  exact Outcome.exists_return_iff

theorem settles_of_parse {parts words : List String} {read : List (String × String)}
    {flags : StartFlags} (hwords : Follows (tokenize parts) words) (hread : Reads words read)
    (h : parse parts = .ok flags) : ∃ settled, settled.flags = flags ∧ Settles read settled := by
  obtain ⟨settled, hflags, hsettled⟩ := exists_settled_of_parse hwords hread h
  exact ⟨settled, hflags, addAll_keeps Settles.add settles_nil hsettled⟩

end StartCommand

open Text in
/-- A command whose words are read as flags is accepted exactly when the values of its ports,
addresses and truth values can be read and every tier of a locality has a value. Then stores, the
mode of failover, the file for logging and the flags that are passed on have their values as they
were given. So do the nodes to join when no entry between commas is empty or has blanks at its ends,
and the locality when no tier between commas is empty. -/
theorem parse_values {parts words : List String} {read : List (String × String)}
    (hwords : StartCommand.Follows (StartCommand.tokenize parts) words)
    (hread : StartCommand.Reads words read) :
    ((∃ flags, StartCommand.parse parts = .ok flags) ↔
        ∀ e ∈ read, StartCommand.Readable e.1 e.2)
      ∧ ∀ flags, StartCommand.parse parts = .ok flags →
        flags.stores = (read.filter fun e => e.1 ∈ ["--store", "-s"]).map (·.2)
          ∧ flags.walFailover = StartCommand.lastValue? read "--wal-failover"
          ∧ flags.logConfigFile = StartCommand.lastValue? read "--log-config-file"
          ∧ (∀ name, StartCommand.isPassedOn name = true →
            flags.extra.get? name = StartCommand.lastValue? read name)
          ∧ (∀ value, StartCommand.lastValue? read "--join" = some value →
            (join "," flags.join = value ↔
              value = "" ∨ ∀ entry ∈ split ',' value, entry ≠ "" ∧ trim entry = entry))
          ∧ ∀ value, StartCommand.lastValue? read "--locality" = some value →
            (flags.localityFlag? = some value ↔ ∀ tier ∈ split ',' value, tier ≠ "") := by
  refine ⟨StartCommand.exists_parse_iff hwords hread, fun flags hparse => ?_⟩
  obtain ⟨settled, rfl, hsettled⟩ := StartCommand.settles_of_parse hwords hread hparse
  refine ⟨hsettled.stores, hsettled.walFailover, hsettled.logConfigFile, hsettled.extra,
    fun value hlast => ?_, fun value hlast => ?_⟩
  · have hjoin : settled.flags.join = StartCommand.readJoin value := hsettled.join value hlast
    rw [hjoin, StartCommand.join_readJoin_iff]
  · exact StartCommand.localityFlag?_iff (hsettled.locality value hlast)

/-- A start command with a substitution in every value. -/
def substitutedParts : List String :=
  ["start --store=path=$(dir a),size=1 --wal-failover=$(mode) --cache $\x7bA B\x7d",
    "--join=$(host 0),$(host 1) --locality=region=$(cat /r),zone=$\x7bZ\x7d"]

theorem parse_substituted :
    ∃ flags, StartCommand.parse substitutedParts = .ok flags
      ∧ flags.stores = ["path=$(dir a),size=1"] ∧ flags.walFailover = some "$(mode)"
      ∧ flags.extra.get? "--cache" = some "$\x7bA B\x7d"
      ∧ Text.join "," flags.join = "$(host 0),$(host 1)"
      ∧ flags.localityFlag? = some "region=$(cat /r),zone=$\x7bZ\x7d" := by
  let words := ["--store=path=$(dir a),size=1", "--wal-failover=$(mode)", "--cache", "$\x7bA B\x7d",
    "--join=$(host 0),$(host 1)", "--locality=region=$(cat /r),zone=$\x7bZ\x7d"]
  let read := [("--store", "path=$(dir a),size=1"), ("--wal-failover", "$(mode)"),
    ("--cache", "$\x7bA B\x7d"), ("--join", "$(host 0),$(host 1)"),
    ("--locality", "region=$(cat /r),zone=$\x7bZ\x7d")]
  have hwords : StartCommand.Follows (StartCommand.tokenize substitutedParts) words :=
    StartCommand.follows_iff.mpr (by decide +kernel)
  have hread : StartCommand.Reads words read := StartCommand.reads_iff.mpr (by decide +kernel)
  obtain ⟨haccepted, hsettled⟩ := parse_values hwords hread
  have hreadable : ∀ e ∈ read, StartCommand.Readable e.1 e.2 := by
    have hother {name value : String} (hname : name ∉ ["--port", "--http-port", "--sql-addr",
        "--listen-addr", "--http-addr", "--insecure", "--locality"]) :
        StartCommand.Readable name value := by
      simp only [List.mem_cons, List.not_mem_nil, or_false, not_or] at hname
      constructor <;> simp [hname]
    simp only [read, List.forall_mem_cons, List.not_mem_nil, false_implies, implies_true, and_true]
    exact ⟨hother (by simp), hother (by simp), hother (by simp), hother (by simp),
      ⟨by simp, by simp, by simp, fun _ => by decide +kernel⟩⟩
  obtain ⟨flags, hflags⟩ := haccepted.mpr hreadable
  obtain ⟨hstores, hwal, -, hextra, hjoin, hlocality⟩ := hsettled flags hflags
  refine ⟨flags, hflags, hstores, hwal, hextra "--cache" (by decide), ?_, ?_⟩
  · exact (hjoin _ rfl).mpr (.inr (by decide +kernel))
  · exact (hlocality _ rfl).mpr (by decide +kernel)

/-- It is not so that a value with a substitution always comes through: a locality is refused for
the commas in a substitution. -/
theorem not_always_verbatim :
    ¬ ∀ (parts words : List String) (value : String),
      StartCommand.Follows (StartCommand.tokenize parts) words →
      StartCommand.Reads words [("--locality", value)] →
      StartCommand.hasSubstitution value = true →
      ∃ flags, StartCommand.parse parts = .ok flags ∧ flags.localityFlag? = some value := by
  intro halways
  let word := "--locality=region=$(cut -d, -f1 /etc/region)"
  obtain ⟨flags, hflags, -⟩ := halways ["start", word] [word] "region=$(cut -d, -f1 /etc/region)"
    (StartCommand.follows_iff.mpr (by decide +kernel))
    (StartCommand.reads_iff.mpr (by decide +kernel)) (by decide +kernel)
  have hrefused : (StartCommand.parse ["start", word]).isOk = false := by decide +kernel
  rw [hflags] at hrefused
  cases hrefused

end Handover
