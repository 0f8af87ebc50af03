import Handover.Proofs.OwnFlags
import Handover.Proofs.Pieces

/-!
# Flags that are written again

What was read of a start command can be written as a start command: the flags that are passed on,
and then one flag or more for each field. Of any flags in which ports are ports, joined nodes and
localities are read as they are written, and no word is split, that command is read as just these
flags (`parse_command`). What was read of a command without quotes is of this kind
(`writable_of_parse`), so that nothing is lost or changed when it is written (`parse_reemitted`).
-/

namespace Handover

/-! ## The command that is written -/

namespace StartFlags

/-- The values that are written for each field. Stores have one name only. -/
def ownValues (flags : StartFlags) : List (String × List String) :=
  [("--sql-addr", [s!":{flags.sqlPort.toNat}"]),
    ("--listen-addr", [s!":{flags.grpcPort.toNat}"]),
    ("--http-addr", [s!":{flags.httpPort.toNat}"]),
    ("--join", [Text.join "," flags.join]),
    ("--insecure", [toString flags.insecure]),
    ("--locality", flags.localityFlag?.toList),
    ("--wal-failover", flags.walFailover.toList),
    ("--log-config-file", flags.logConfigFile.toList),
    ("--store", flags.stores)]

def ownFlags (flags : StartFlags) : List (String × String) :=
  flags.ownValues.flatMap fun (name, values) => values.map (name, ·)

/-- A start command for the flags. -/
def command (flags : StartFlags) : List String :=
  "start" :: (flags.extra.toArgs ++ flags.ownFlags.map StartCommand.joined)

end StartFlags

namespace StartCommand

open Text

variable {given : List (String × String)} {flags : StartFlags}

/-! ## What is written -/

theorem cutLast?_colon {after : String} (h : ':' ∉ after.toList) :
    cutLast? ':' s!":{after}" = some ("", after) := by
  have hnone : cutLastChars ':' after.toList = none := by
    generalize after.toList = cs at h
    induction cs with
    | nil => rfl
    | cons c cs ih =>
      rw [List.mem_cons, not_or] at h
      rw [cutLastChars, ih h.2]
      exact if_neg (Ne.symm h.1)
  have hlist : (s!":{after}").toList = ':' :: after.toList := by simp [toString]
  rw [cutLast?, hlist, cutLastChars, hnone]
  simp

theorem portText?_written (n : Nat) : portText? s!":{n}" = some (toString n) := by
  have hcolon : ':' ∉ (toString n).toList := fun hc =>
    absurd (isDigit_of_mem_toString hc) (by decide)
  have hends : ¬endsWith (toString n) "]" = true := fun hends => by
    obtain ⟨before, heq⟩ := endsWith_iff_append.mp hends
    have hc : ']' ∈ (toString n).toList := by simp [heq]
    exact absurd (isDigit_of_mem_toString hc) (by decide)
  have hcut : cutLast? ':' s!":{n}" = some ("", toString n) := cutLast?_colon hcolon
  rw [portText?, hcut, Option.bind_some]
  exact if_neg hends

/-- The values that are written under some names. -/
theorem values_ownFlags (flags : StartFlags) (p : String → Bool) :
    (flags.ownFlags.filter fun e => p e.1).map (·.2)
      = (flags.ownValues.filter fun group => p group.1).flatMap (·.2) := by
  rw [StartFlags.ownFlags]
  induction flags.ownValues with
  | nil => rfl
  | cons group groups ih =>
    rw [List.flatMap_cons, List.filter_append, List.map_append, ih]
    cases hp : p group.1 <;> simp [hp, List.filter_map, Function.comp_def]

theorem lastValue?_ownFlags (flags : StartFlags) (name : String) :
    lastValue? flags.ownFlags name
      = ((flags.ownValues.filter (·.1 = name)).flatMap (·.2)).getLast? := by
  rw [lastValue?_eq_getLast?, values_ownFlags flags fun own => own = name]

/-- The names that are written, in their order. -/
theorem names_ownValues (flags : StartFlags) : flags.ownValues.map (·.1)
    = ["--sql-addr", "--listen-addr", "--http-addr", "--join", "--insecure", "--locality",
      "--wal-failover", "--log-config-file", "--store"] := rfl

/-- What holds of every value that is written for a field holds of every flag that is. -/
theorem forall_mem_ownFlags {P : String → String → Prop}
    (h : ∀ group ∈ flags.ownValues, ∀ value ∈ group.2, P group.1 value) :
    ∀ e ∈ flags.ownFlags, P e.1 e.2 := by
  intro e he
  obtain ⟨group, hgroup, he⟩ := List.mem_flatMap.mp he
  obtain ⟨value, hvalue, rfl⟩ := List.mem_map.mp he
  exact h group hgroup value hvalue

/-- A flag that is written for a field is one with a meaning, and its name opens no substitution. -/
theorem name_of_mem_ownFlags {e : String × String} (h : e ∈ flags.ownFlags) :
    isFlag e.1 = true ∧ '=' ∉ e.1.toList ∧ isPassedOn e.1 = false
      ∧ Enclosed (0, false) e.1.toList := by
  have hall : ∀ name ∈ ["--sql-addr", "--listen-addr", "--http-addr", "--join", "--insecure",
      "--locality", "--wal-failover", "--log-config-file", "--store"],
      isFlag name = true ∧ '=' ∉ name.toList ∧ isPassedOn name = false ∧ Plain name.toList := by
    decide +kernel
  have hmem : e.1 ∈ flags.ownValues.map (·.1) :=
    forall_mem_ownFlags (P := fun name _ => name ∈ flags.ownValues.map (·.1))
      (fun _ hgroup _ _ => List.mem_map_of_mem hgroup) e h
  rw [names_ownValues] at hmem
  obtain ⟨hflag, hequals, hpassed, hplain⟩ := hall _ hmem
  exact ⟨hflag, hequals, hpassed, enclosed_of_plain hplain _⟩

/-! ## Reading what is written -/

/-- Flags that can be written: ports are ports, what is put together with commas is read as it was,
and no word that is written is split. -/
structure Writable (flags : StartFlags) : Prop where
  ports : ∀ port ∈ [flags.sqlPort, flags.grpcPort, flags.httpPort], 0 < port.toNat
  join : readJoin (join "," flags.join) = flags.join
  locality : ∀ text, flags.localityFlag? = some text → readLocality text = .ok flags.locality
  names : ∀ e ∈ flags.extra.entries,
    isFlag e.1 = true ∧ '=' ∉ e.1.toList ∧ isPassedOn e.1 = true
  passedOn : ∀ e ∈ flags.extra.entries, Enclosed (0, false) (joined e).toList
  own : ∀ e ∈ flags.ownFlags, Enclosed (0, false) e.2.toList

/-- All flags that are written. -/
def written (flags : StartFlags) : List (String × String) := flags.extra.entries ++ flags.ownFlags

theorem isLast_of_nodup {e : String × String} (hnodup : (given.map (·.1)).Nodup) (he : e ∈ given) :
    IsLast given e := by
  obtain ⟨before, after, rfl⟩ := List.append_of_mem he
  refine ⟨before, after, rfl, fun e' he' heq => ?_⟩
  rw [List.map_append, List.map_cons] at hnodup
  have hnot := (List.nodup_cons.mp (List.nodup_append.mp hnodup).2.1).1
  exact hnot (List.mem_map.mpr ⟨e', he', heq⟩)

theorem passedOn_written (h : Writable flags) : PassedOn (written flags) flags.extra.entries where
  names := by
    have hentries : (flags.extra.entries.map (·.1)).filter isPassedOn
        = flags.extra.entries.map (·.1) :=
      List.filter_eq_self.mpr (List.forall_mem_map.mpr fun e he => (h.names e he).2.2)
    have hown : (flags.ownFlags.map (·.1)).filter isPassedOn = [] := by
      refine List.filter_eq_nil_iff.mpr (List.forall_mem_map.mpr fun e he => ?_)
      rw [(name_of_mem_ownFlags he).2.2.1]
      exact Bool.false_ne_true
    rw [written, List.map_append, List.filter_append, hentries, hown, List.append_nil,
      eraseDups_of_nodup flags.extra.nodup]
  last e he := by
    obtain ⟨before, after, hentries, hafter⟩ := isLast_of_nodup flags.extra.nodup he
    refine ⟨before, after ++ flags.ownFlags, by simp [written, hentries], ?_⟩
    rw [List.forall_mem_append]
    refine ⟨hafter, fun e' he' heq => ?_⟩
    cases (name_of_mem_ownFlags he').2.2.1.symm.trans (heq ▸ (h.names e he).2.2)

/-- What is passed on says nothing about a flag with a meaning. -/
theorem lastValue?_written (h : Writable flags) {name : String} {value? : Option String}
    (hname : isPassedOn name = false)
    (hvalue : (flags.ownValues.filter (·.1 = name)).flatMap (·.2) = value?.toList) :
    lastValue? (written flags) name = value? := by
  have hnone : lastValue? flags.extra.entries name = none := by
    rw [lastValue?_eq_none_iff, List.mem_map]
    rintro ⟨e, he, rfl⟩
    cases hname.symm.trans (h.names e he).2.2
  have hlast : value?.toList.getLast? = value? := by cases value? <;> rfl
  rw [written, lastValue?_append, hnone, Option.or_none, lastValue?_ownFlags, hvalue, hlast]

theorem localityFlag?_eq_none_iff : flags.localityFlag? = none ↔ flags.locality = [] := by
  rw [StartFlags.localityFlag?, ← List.isEmpty_iff]
  split <;> simp_all

theorem denotesPort_written {port : UInt16} (hpos : 0 < port.toNat) :
    DenotesPort (toString port.toNat) port :=
  ⟨denotes_toString _, hpos⟩

theorem denotesBool_written (b : Bool) : DenotesBool (toString b) b := by
  cases b with
  | true => exact .yes
  | false => exact .no

/-- Each field comes from what is written for it. -/
theorem fromOwn_written (h : Writable flags) : FromOwn (written flags) flags := by
  have hport {port : UInt16} (hport : port ∈ [flags.sqlPort, flags.grpcPort, flags.httpPort]) :=
    denotesPort_written (h.ports port hport)
  constructor
  case sqlPort =>
    have hlast : lastValue? (written flags) "--sql-addr" = some s!":{flags.sqlPort.toNat}" :=
      lastValue?_written h (by decide) (by simp [StartFlags.ownValues])
    rw [sqlPortText?, hlast, Option.bind_some, portText?_written, Option.some_or]
    exact hport (by simp)
  case grpcPort =>
    have hlast : lastValue? (written flags) "--listen-addr" = some s!":{flags.grpcPort.toNat}" :=
      lastValue?_written h (by decide) (by simp [StartFlags.ownValues])
    rw [grpcPortText?, hlast, Option.bind_some, portText?_written]
    exact hport (by simp)
  case httpPort =>
    have hlast : lastValue? (written flags) "--http-addr" = some s!":{flags.httpPort.toNat}" :=
      lastValue?_written h (by decide) (by simp [StartFlags.ownValues])
    rw [httpPortText?, hlast, Option.bind_some, portText?_written, Option.some_or]
    exact hport (by simp)
  case join =>
    have hlast : lastValue? (written flags) "--join" = some (Text.join "," flags.join) :=
      lastValue?_written h (by decide) (by simp [StartFlags.ownValues])
    rw [hlast]
    exact readJoin_eq_iff.mp h.join
  case insecure =>
    have hlast : lastValue? (written flags) "--insecure" = some (toString flags.insecure) :=
      lastValue?_written h (by decide) (by simp [StartFlags.ownValues])
    rw [hlast]
    exact denotesBool_written _
  case locality =>
    have hlast : lastValue? (written flags) "--locality" = flags.localityFlag? :=
      lastValue?_written h (by decide) (by simp [StartFlags.ownValues])
    rw [hlast]
    cases htext : flags.localityFlag? with
    | some text => exact readLocality_eq_ok.mp (h.locality text htext)
    | none => exact localityFlag?_eq_none_iff.mp htext
  case walFailover =>
    exact (lastValue?_written h (by decide) (by simp [StartFlags.ownValues])).symm
  case logConfigFile =>
    exact (lastValue?_written h (by decide) (by simp [StartFlags.ownValues])).symm
  case stores =>
    have hstores : ∀ name ∈ ["--store", "-s"], isPassedOn name = false := by decide
    have hentries : flags.extra.entries.filter (fun e => e.1 ∈ ["--store", "-s"]) = [] := by
      refine List.filter_eq_nil_iff.mpr fun e he hname => ?_
      cases (hstores e.1 (of_decide_eq_true hname)).symm.trans (h.names e he).2.2
    rw [written, List.filter_append, hentries, List.nil_append,
      values_ownFlags flags fun own => own ∈ ["--store", "-s"]]
    simp [StartFlags.ownValues]
  case extra => exact (passedOn_written h).get?
  case passedOn => exact passedOn_written h

/-- Flags of which the value has a form. -/
def formedFlags : List String :=
  ["--port", "--http-port", "--sql-addr", "--listen-addr", "--http-addr", "--insecure",
    "--locality"]

theorem readable_of_notMem {name value : String} (h : name ∉ formedFlags) :
    Readable name value := by
  simp only [formedFlags, List.mem_cons, List.not_mem_nil, or_false, not_or] at h
  constructor <;> simp [h]

theorem readAddressPort_written (flag : String) {port : UInt16} (hpos : 0 < port.toNat) :
    readAddressPort flag s!":{port.toNat}" = .ok (some port) := by
  rw [readAddressPort_eq_ok, portText?_written]
  exact .some (denotesPort_written hpos)

theorem readable_ownFlags (h : Writable flags) : ∀ e ∈ flags.ownFlags, Readable e.1 e.2 := by
  have hport {port : UInt16} (hport : port ∈ [flags.sqlPort, flags.grpcPort, flags.httpPort])
      (flag : String) := readAddressPort_written flag (h.ports port hport)
  refine forall_mem_ownFlags ?_
  simp only [StartFlags.ownValues, List.forall_mem_cons, List.not_mem_nil, false_implies,
    implies_true, and_true]
  refine ⟨?_, ?_, ?_, readable_of_notMem (by decide), ?_, fun text htext => ?_,
    fun _ _ => readable_of_notMem (by decide), fun _ _ => readable_of_notMem (by decide),
    fun _ _ => readable_of_notMem (by decide)⟩
  -- what can be read is what a command without other flags would be accepted with
  all_goals refine (exists_addFlag_iff (s := {})).mp (Outcome.exists_return_iff.mpr ?_)
  · exact ⟨_, hport (by simp) "--sql-addr"⟩
  · exact ⟨_, hport (by simp) "--listen-addr"⟩
  · exact ⟨_, hport (by simp) "--http-addr"⟩
  · exact ⟨_, readBool_eq_ok.mpr (denotesBool_written _)⟩
  · exact ⟨_, h.locality text (Option.mem_toList.mp htext)⟩

theorem readable_written (h : Writable flags) : ∀ e ∈ written flags, Readable e.1 e.2 := by
  have hformed : ∀ name ∈ formedFlags, isPassedOn name = false := by decide
  rw [written, List.forall_mem_append]
  refine ⟨fun e he => readable_of_notMem fun hname => ?_, readable_ownFlags h⟩
  cases (hformed e.1 hname).symm.trans (h.names e he).2.2

/-! ## Words that are written -/

theorem enclosed_oneWord {e : String × String} (h : Enclosed (0, false) (joined e).toList) :
    Enclosed (0, false) (oneWord e).toList := by
  rw [oneWord]
  split
  · rw [toList_joined, enclosed_equals] at h
    exact h.1
  · exact h

theorem isFlag_oneWord {e : String × String} (h : isFlag e.1 = true) :
    isFlag (oneWord e) = true := by
  rw [oneWord]
  split
  · exact h
  · exact isFlag_joined.mpr h

/-- No word of the command is split. -/
theorem tokenize_command (h : Writable flags) : tokenize flags.command = flags.command := by
  have hwhole {word : String} (hflag : isFlag word = true)
      (henclosed : Enclosed (0, false) word.toList) : partWords word = [word] := by
    refine partWords_of_enclosed ?_ henclosed
    rintro rfl
    exact absurd hflag (by decide)
  refine tokenize_of_whole ?_
  rw [StartFlags.command, toArgs_eq, List.forall_mem_cons, List.forall_mem_append,
    List.forall_mem_map, List.forall_mem_map]
  refine ⟨by decide, fun e he => ?_, fun e he => ?_⟩
  · exact hwhole (isFlag_oneWord (h.names e he).1) (enclosed_oneWord (h.passedOn e he))
  · obtain ⟨hflag, -, -, hname⟩ := name_of_mem_ownFlags he
    exact hwhole (isFlag_joined.mpr hflag) (enclosed_joined hname (h.own e he))

theorem reads_command (h : Writable flags) :
    Reads (flags.extra.toArgs ++ flags.ownFlags.map joined) (written flags) := by
  rw [toArgs_eq]
  refine (reads_oneWord (fun e he => ⟨(h.names e he).1, (h.names e he).2.1⟩)
    (reads_joined fun e he => ⟨(name_of_mem_ownFlags he).1, (name_of_mem_ownFlags he).2.1⟩)
    fun next hnext => ?_).1
  obtain ⟨e, he, rfl⟩ := List.mem_map.mp (List.mem_of_mem_head? hnext)
  exact isFlag_joined.mpr (name_of_mem_ownFlags he).1

/-- Flags that can be written are read as they were. -/
theorem parse_command (h : Writable flags) : parse flags.command = .ok flags := by
  have hwords : Follows (tokenize flags.command)
      (flags.extra.toArgs ++ flags.ownFlags.map joined) := by
    rw [tokenize_command h]
    exact follows_start _
  obtain ⟨flags', hflags'⟩ :=
    (exists_parse_iff hwords (reads_command h)).mpr (readable_written h)
  have hfrom := fromOwn_of_parse hwords (reads_command h) hflags'
  rw [hflags', (fromOwn_written h).unique hfrom]

/-! ## What was read can be written -/

theorem Follows.subset {tokens words : List String} (h : Follows tokens words) :
    words ⊆ tokens := by
  cases h with
  | subcommand _ _ => exact fun _ hword => List.mem_append_right _ (List.mem_cons_of_mem _ hword)
  | none _ => exact fun _ hword => hword

/-- What is read of enclosed words stays enclosed when each flag is put into one word. -/
theorem Reads.enclosed {words : List String} (h : Reads words given)
    (hwords : ∀ word ∈ words, Enclosed (0, false) word.toList) :
    ∀ e ∈ given, Enclosed (0, false) (StartCommand.joined e).toList := by
  induction h with
  | nil => exact nofun
  | joined _ _ _ ih =>
    obtain ⟨hword, hwords⟩ := List.forall_mem_cons.mp hwords
    exact List.forall_mem_cons.mpr ⟨hword, ih hwords⟩
  | apart _ _ _ _ _ ih =>
    obtain ⟨hname, hwords⟩ := List.forall_mem_cons.mp hwords
    obtain ⟨hvalue, hwords⟩ := List.forall_mem_cons.mp hwords
    exact List.forall_mem_cons.mpr ⟨enclosed_joined (e := (_, _)) hname hvalue, ih hwords⟩
  | alone _ _ _ _ ih =>
    obtain ⟨hname, hwords⟩ := List.forall_mem_cons.mp hwords
    exact List.forall_mem_cons.mpr ⟨enclosed_joined (e := (_, "")) hname trivial, ih hwords⟩

/-- The name of a flag with a meaning opens no substitution, so that its value stands by itself. -/
theorem enclosed_value {name value : String} (hname : name ∈ interpretedFlags)
    (h : Enclosed (0, false) (joined (name, value)).toList) :
    Enclosed (0, false) value.toList := by
  have hdepth : ∀ name ∈ interpretedFlags, (name.toList.foldl count (0, false)).1 = 0 := by decide
  rw [toList_joined, enclosed_equals, hdepth name hname] at h
  exact h.2

/-- A locality that was read is written as one that is read alike, and enclosed as it was. -/
theorem localityFlag?_of_readLocality {value text : String}
    (h : readLocality value = .ok flags.locality) (htext : flags.localityFlag? = some text) :
    readLocality text = .ok flags.locality
      ∧ (Enclosed (0, false) value.toList → Enclosed (0, false) text.toList) := by
  have hsome : flags.locality ≠ [] := fun hnone => by
    cases htext.symm.trans (localityFlag?_eq_none_iff.mpr hnone)
  rw [StartFlags.localityFlag?, if_neg (by simpa using hsome), Option.some.injEq] at htext
  subst htext
  refine ⟨readLocality_join h hsome, fun hvalue => ?_⟩
  have hkeeps : KeepsEnclosed id := fun _ _ hpiece => ⟨hpiece, rfl⟩
  have hpieces := enclosed_join_filter_map hkeeps hvalue
  rwa [List.map_id, ← map_tiers_of_readLocality h] at hpieces

theorem enclosed_port (port : UInt16) : Enclosed (0, false) (s!":{port.toNat}").toList := by
  have hdigits : ∀ d < 10, isBlank d.digitChar = false ∧ isQuote d.digitChar = false := by decide
  have hlist : (s!":{port.toNat}").toList = ':' :: (toString port.toNat).toList := by
    simp [toString]
  rw [hlist]
  apply enclosed_of_plain
  refine List.forall_mem_cons.mpr ⟨by decide, fun c hc => ?_⟩
  obtain ⟨d, hd, rfl⟩ := isDigit_iff.mp (isDigit_of_mem_toString hc)
  exact hdigits d hd

/-- What is written for the fields is enclosed when what was given for them is. -/
theorem FromOwn.enclosed_ownFlags (h : FromOwn given flags)
    (hvalue : ∀ {name value}, name ∈ interpretedFlags → (name, value) ∈ given →
      Enclosed (0, false) value.toList) :
    ∀ e ∈ flags.ownFlags, Enclosed (0, false) e.2.toList := by
  refine forall_mem_ownFlags (P := fun _ value => Enclosed (0, false) value.toList) ?_
  simp only [StartFlags.ownValues, List.forall_mem_cons, List.not_mem_nil, false_implies,
    implies_true, and_true]
  refine ⟨enclosed_port _, enclosed_port _, enclosed_port _, ?_, ?_, fun text htext => ?_,
    fun value hwal => ?_, fun value hlog => ?_, fun value hstore => ?_⟩
  · rcases h.join.cases with hnone | ⟨value, hmem, hread⟩
    · rw [hnone]
      trivial
    · rw [← readJoin_eq_iff.mpr hread]
      apply enclosed_join_filter_map keepsEnclosed_trim
      exact hvalue (by decide) hmem
  · exact enclosed_of_plain (by cases flags.insecure <;> decide) _
  · rw [Option.mem_toList] at htext
    rcases h.locality.cases with hnone | ⟨value, hmem, hread⟩
    · cases htext.symm.trans (localityFlag?_eq_none_iff.mpr hnone)
    · have hkept := localityFlag?_of_readLocality (readLocality_eq_ok.mpr hread) htext
      exact hkept.2 (hvalue (by decide) hmem)
  · rw [Option.mem_toList, h.walFailover] at hwal
    exact hvalue (by decide) (mem_of_lastValue? hwal)
  · rw [Option.mem_toList, h.logConfigFile] at hlog
    exact hvalue (by decide) (mem_of_lastValue? hlog)
  · rw [h.stores] at hstore
    obtain ⟨e, he, rfl⟩ := List.mem_map.mp hstore
    obtain ⟨hgiven, hname⟩ := List.mem_filter.mp he
    have hstores : ∀ name ∈ ["--store", "-s"], name ∈ interpretedFlags := by decide
    exact hvalue (hstores e.1 (of_decide_eq_true hname)) hgiven

theorem FromOwn.writable (h : FromOwn given flags)
    (hflags : ∀ e ∈ given, isFlag e.1 = true ∧ '=' ∉ e.1.toList)
    (henclosed : ∀ e ∈ given, Enclosed (0, false) (joined e).toList) : Writable flags := by
  constructor
  case ports =>
    simp only [List.forall_mem_cons, List.not_mem_nil, false_implies, implies_true, and_true]
    exact ⟨h.sqlPort.pos (by decide), h.grpcPort.pos (by decide), h.httpPort.pos (by decide)⟩
  case join =>
    rcases h.join.cases with hnone | ⟨value, -, hread⟩
    · rw [hnone]
      rfl
    · rw [← readJoin_eq_iff.mpr hread, readJoin_join]
  case locality =>
    intro text htext
    rcases h.locality.cases with hnone | ⟨value, -, hread⟩
    · cases htext.symm.trans (localityFlag?_eq_none_iff.mpr hnone)
    · exact (localityFlag?_of_readLocality (readLocality_eq_ok.mpr hread) htext).1
  case names =>
    intro e he
    obtain ⟨hgiven, hpassed⟩ := h.passedOn.mem he
    exact ⟨(hflags e hgiven).1, (hflags e hgiven).2, hpassed⟩
  case passedOn => exact fun e he => henclosed e (h.passedOn.mem he).1
  case own =>
    exact h.enclosed_ownFlags fun hname hmem => enclosed_value hname (henclosed _ hmem)

/-- What was read of a command without quotes can be written. -/
theorem writable_of_parse {parts : List String}
    (hquotes : ∀ part ∈ parts, ∀ c ∈ part.toList, isQuote c = false)
    (h : parse parts = .ok flags) : Writable flags := by
  obtain ⟨words, given, hwords, hread, -⟩ := passedOn_of_parse h
  have henclosed : ∀ word ∈ words, Enclosed (0, false) word.toList := by
    intro word hword
    obtain ⟨part, hpart, hmem⟩ := List.mem_flatMap.mp (hwords.subset hword)
    exact enclosed_of_mem_partWords (hquotes part hpart) hmem
  exact (fromOwn_of_parse hwords hread h).writable hread.isFlag (hread.enclosed henclosed)

end StartCommand

open StartCommand in
/-- What was read of a command without quotes is the same when it is written as a command and read
again. -/
theorem parse_reemitted {parts : List String} {flags : StartFlags}
    (hquotes : ∀ part ∈ parts, ∀ c ∈ part.toList, isQuote c = false)
    (h : parse parts = .ok flags) : parse flags.command = .ok flags :=
  parse_command (writable_of_parse hquotes h)

/-- Substitutions with blanks and commas in them, two of which are never closed, and entries and
values that are empty. -/
def unevenParts : List String :=
  ["/cockroach start --join=$(host 0 , 1 ),,b --cache 25% --x --locality=region=$(cat /r),,zone=1",
    "--port=+080 -s=a --store=$(dir b --cache=1", "--y=$\x7bA -- B", "--cache= --insecure"]

def unevenCommand : List String :=
  ["start", "--cache", "--x", "--y=$\x7bA -- B", "--sql-addr=:80", "--listen-addr=:26258",
    "--http-addr=:8080", "--join=$(host 0,1 ),b", "--insecure=true",
    "--locality=region=$(cat /r),zone=1", "--store=a", "--store=$(dir b --cache=1"]

theorem parse_uneven :
    ∃ flags, StartCommand.parse unevenParts = .ok flags ∧ flags.command = unevenCommand
      ∧ StartCommand.parse flags.command = .ok flags := by
  have hwritten : (do return (← StartCommand.parse unevenParts).command)
      = (.ok unevenCommand : Outcome (List String)) := by decide +kernel
  obtain ⟨flags, hflags, hcommand⟩ := Outcome.bind_eq_ok.mp hwritten
  have hnone : (unevenParts.all fun part => part.toList.all fun c => !StartCommand.isQuote c)
      = true := by decide +kernel
  have hquotes : ∀ part ∈ unevenParts, ∀ c ∈ part.toList, StartCommand.isQuote c = false := by
    simpa only [List.all_eq_true, Bool.not_eq_true'] using hnone
  exact ⟨flags, hflags, Outcome.pure_eq_ok.mp hcommand, parse_reemitted hquotes hflags⟩

end Handover
