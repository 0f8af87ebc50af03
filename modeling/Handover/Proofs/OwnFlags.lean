import Handover.Proofs.FlagValues
import Handover.Proofs.WholeWords

/-!
# Each field from its own flags

What becomes of a start command is settled field by field (`FromOwn`): a field holds what the last
value of its own flag means, stores hold all that were given, and a port is that of the last
address, or else the one that was given alone. One flag more sets its own field and leaves the
others (`setsOwn_of_addFlag`), so that by induction a whole command does (`fromOwn_of_parse`).

A field therefore does not depend on where the flags of other fields stand, and neighbours may
change places (`parse_ownFlags`).
-/

namespace Handover

namespace StartCommand

open Text

/-! ## The last value of a flag -/

theorem lastValue?_append (given given' : List (String × String)) (name : String) :
    lastValue? (given ++ given') name = (lastValue? given' name).or (lastValue? given name) := by
  rw [lastValue?, List.reverse_append, List.find?_append, Option.map_or]
  rfl

theorem mem_of_lastValue? {given : List (String × String)} {name value : String}
    (h : lastValue? given name = some value) : (name, value) ∈ given := by
  obtain ⟨e, he, rfl⟩ := Option.map_eq_some_iff.mp h
  have hname : e.1 = name := by simpa using List.find?_some he
  exact hname ▸ List.mem_reverse.mp (List.mem_of_find?_eq_some he)

theorem lastValue?_eq_none_iff {given : List (String × String)} {name : String} :
    lastValue? given name = none ↔ name ∉ given.map (·.1) := by
  rw [lastValue?, Option.map_eq_none_iff, List.find?_eq_none]
  simp only [List.mem_reverse, decide_eq_true_eq, List.mem_map, not_exists, not_and]

theorem lastValue?_eq_getLast? (given : List (String × String)) (name : String) :
    lastValue? given name = ((given.filter (·.1 = name)).map (·.2)).getLast? := by
  rw [lastValue?, List.getLast?_map, ← List.head?_reverse, ← List.filter_reverse,
    List.head?_filter]

/-- Neighbours may change places where only one of them is looked at. -/
theorem filter_swap {p : String × String → Bool} {e e' : String × String}
    (h : ¬ (p e = true ∧ p e' = true)) (before after : List (String × String)) :
    (before ++ e' :: e :: after).filter p = (before ++ e :: e' :: after).filter p := by
  simp only [List.filter_append, List.filter_cons]
  cases he : p e <;> cases he' : p e'
  case true.true => exact absurd ⟨he, he'⟩ h
  all_goals rfl

/-- Neighbours with different names may change places. -/
theorem lastValue?_swap {e e' : String × String} (hne : e.1 ≠ e'.1)
    (before after : List (String × String)) (name : String) :
    lastValue? (before ++ e' :: e :: after) name
      = lastValue? (before ++ e :: e' :: after) name := by
  rw [lastValue?_eq_getLast?, lastValue?_eq_getLast?, filter_swap]
  rintro ⟨h, h'⟩
  exact hne ((of_decide_eq_true h).trans (of_decide_eq_true h').symm)

/-! ## One flag more -/

variable {α : Type} {given : List (String × String)} {own name value : String}
  {means means' : String → α → Prop} {text? : Option String} {read : String → Outcome α}
  {default field field' : α}

/-- A field holds what a text means, or what it has without one. -/
def Holds (means : String → α → Prop) (text? : Option String) (default field : α) : Prop :=
  match text? with
  | some text => means text field
  | none => field = default

theorem Holds.imp (h : Holds means text? default field)
    (himp : ∀ {text}, means text field → means' text field) : Holds means' text? default field := by
  cases text? with
  | some text => exact himp h
  | none => exact h

/-- A field holds one thing only when a text means one thing only. -/
theorem Holds.unique (h : Holds means text? default field) (h' : Holds means text? default field')
    (hunique : ∀ {text}, means text field → means text field' → field' = field) :
    field' = field := by
  cases text? with
  | some text => exact hunique h h'
  | none => exact Eq.trans h' (Eq.symm h)

theorem Holds.cases (h : Holds means (lastValue? given own) default field) :
    field = default ∨ ∃ value, (own, value) ∈ given ∧ means value field := by
  cases hvalue : lastValue? given own with
  | some value =>
    rw [hvalue] at h
    exact .inr ⟨value, mem_of_lastValue? hvalue, h⟩
  | none =>
    rw [hvalue] at h
    exact .inl h

/-- A field holds what is read of the last value of its flag. -/
def HoldsLast (given : List (String × String)) (own : String) (read : String → Outcome α)
    (default field : α) : Prop :=
  Holds (fun value a => read value = .ok a) (lastValue? given own) default field

/-- A field is set by its own flag, and left as it is by the others. -/
def SetsOwn (own name value : String) (read : String → Outcome α) (field field' : α) : Prop :=
  if name = own then read value = .ok field' else field' = field

theorem HoldsLast.add (h : HoldsLast given own read default field)
    (hset : SetsOwn own name value read field field') :
    HoldsLast (given ++ [(name, value)]) own read default field' := by
  rw [HoldsLast, lastValue?_concat]
  by_cases hname : name = own
  · rw [if_pos hname]
    exact (if_pos hname).mp hset
  · rw [if_neg hname, (if_neg hname).mp hset]
    exact h

/-- What one more flag does to the fields that are read of one value. -/
structure Settled.SetsFields (s : Settled) (name value : String) (s' : Settled) : Prop where
  port : SetsOwn "--port" name value (readAlone "--port") s.port s'.port
  sqlAddress : SetsOwn "--sql-addr" name value (readAddressPort "--sql-addr")
    s.sqlAddressPort s'.sqlAddressPort
  listenAddress : SetsOwn "--listen-addr" name value (readAddressPort "--listen-addr")
    s.listenAddressPort s'.listenAddressPort
  httpPort : SetsOwn "--http-port" name value (readAlone "--http-port") s.httpPort s'.httpPort
  httpAddress : SetsOwn "--http-addr" name value (readAddressPort "--http-addr")
    s.httpAddressPort s'.httpAddressPort
  join : SetsOwn "--join" name value (fun value => .ok (readJoin value)) s.join s'.join
  insecure : SetsOwn "--insecure" name value (readBool "--insecure") s.insecure s'.insecure
  locality : SetsOwn "--locality" name value readLocality s.locality s'.locality

theorem setsOwn_of_addFlag {s s' : Settled} (h : s.addFlag name value = .ok s') :
    s.SetsFields name value s' := by
  unfold Settled.addFlag at h
  split at h
  case h_13 hport hsql hlisten hhttp haddr hjoin hinsecure hlocality hwal hstore hs hlog =>
    split at h
    all_goals
      obtain rfl := Except.ok.inj h
      exact ⟨(if_neg hport).mpr rfl, (if_neg hsql).mpr rfl, (if_neg hlisten).mpr rfl,
        (if_neg hhttp).mpr rfl, (if_neg haddr).mpr rfl, (if_neg hjoin).mpr rfl,
        (if_neg hinsecure).mpr rfl, (if_neg hlocality).mpr rfl⟩
  all_goals first
    | obtain rfl := Except.ok.inj h
      constructor <;> simp [SetsOwn]
    | obtain ⟨a, ha, h⟩ := Outcome.bind_eq_ok.mp h
      obtain rfl := Outcome.pure_eq_ok.mp h
      constructor <;> simp [SetsOwn, readAlone, ha]

/-- The fields that are read of one value hold what their flags were given last. -/
structure SettlesFields (given : List (String × String)) (s : Settled) : Prop where
  port : HoldsLast given "--port" (readAlone "--port") none s.port
  sqlAddress : HoldsLast given "--sql-addr" (readAddressPort "--sql-addr") none s.sqlAddressPort
  listenAddress : HoldsLast given "--listen-addr" (readAddressPort "--listen-addr") none
    s.listenAddressPort
  httpPort : HoldsLast given "--http-port" (readAlone "--http-port") none s.httpPort
  httpAddress : HoldsLast given "--http-addr" (readAddressPort "--http-addr") none
    s.httpAddressPort
  join : HoldsLast given "--join" (fun value => .ok (readJoin value)) [] s.join
  insecure : HoldsLast given "--insecure" (readBool "--insecure") false s.insecure
  locality : HoldsLast given "--locality" readLocality [] s.locality

theorem settlesFields_nil : SettlesFields [] {} :=
  ⟨rfl, rfl, rfl, rfl, rfl, rfl, rfl, rfl⟩

theorem SettlesFields.add {s s' : Settled} (h : SettlesFields given s)
    (hadd : s.addFlag name value = .ok s') : SettlesFields (given ++ [(name, value)]) s' :=
  have hsets := setsOwn_of_addFlag hadd
  { port := h.port.add hsets.port
    sqlAddress := h.sqlAddress.add hsets.sqlAddress
    listenAddress := h.listenAddress.add hsets.listenAddress
    httpPort := h.httpPort.add hsets.httpPort
    httpAddress := h.httpAddress.add hsets.httpAddress
    join := h.join.add hsets.join
    insecure := h.insecure.add hsets.insecure
    locality := h.locality.add hsets.locality }

/-! ## Ports -/

/-- A port is there when there is a text for it. -/
theorem Holds.rel {portOf : String → Option String} {port? : Option UInt16}
    (h : Holds (fun text => Option.Rel DenotesPort (portOf text)) text? none port?) :
    Option.Rel DenotesPort (text?.bind portOf) port? := by
  cases text? with
  | some text => exact h
  | none => exact Eq.symm h ▸ .none

theorem HoldsLast.alone {port? : Option UInt16}
    (h : HoldsLast given own (readAlone own) none port?) :
    Option.Rel DenotesPort (lastValue? given own) port? := by
  have hrel : Option.Rel DenotesPort ((lastValue? given own).bind some) port? :=
    Holds.rel (Holds.imp h readAlone_eq_ok.mp)
  simpa using hrel

theorem HoldsLast.address {port? : Option UInt16}
    (h : HoldsLast given own (readAddressPort own) none port?) :
    Option.Rel DenotesPort ((lastValue? given own).bind portText?) port? :=
  Holds.rel (Holds.imp h readAddressPort_eq_ok.mp)

/-- What a text stands for comes first in both, or in none. -/
theorem rel_or {text? text?' : Option String} {port? port?' : Option UInt16}
    (h : Option.Rel DenotesPort text? port?) (h' : Option.Rel DenotesPort text?' port?') :
    Option.Rel DenotesPort (text?.or text?') (port?.or port?') := by
  cases h with
  | some hport => exact .some hport
  | none => exact h'

theorem holds_getD {text? : Option String} {port? : Option UInt16}
    (h : Option.Rel DenotesPort text? port?) (default : UInt16) :
    Holds DenotesPort text? default (port?.getD default) := by
  cases h with
  | some hport => exact hport
  | none => exact rfl

theorem Holds.pos {default port : UInt16} (h : Holds DenotesPort text? default port)
    (hdefault : 0 < default.toNat) : 0 < port.toNat := by
  cases text? with
  | some text => exact And.right h
  | none => exact Eq.symm h ▸ hdefault

/-- The text of the port for SQL: in the last address, or else given alone. -/
def sqlPortText? (given : List (String × String)) : Option String :=
  ((lastValue? given "--sql-addr").bind portText?).or (lastValue? given "--port")

/-- The text of the port between nodes, in the last address that is listened at. -/
def grpcPortText? (given : List (String × String)) : Option String :=
  (lastValue? given "--listen-addr").bind portText?

/-- The text of the port for HTTP: in the last address, or else given alone. -/
def httpPortText? (given : List (String × String)) : Option String :=
  ((lastValue? given "--http-addr").bind portText?).or (lastValue? given "--http-port")

/-! ## Flags that are passed on -/

theorem get?_eq_none_of_notMem {flags : ExtraFlags} (h : name ∉ flags.entries.map (·.1)) :
    flags.get? name = none := by
  rw [ExtraFlags.get?, Option.map_eq_none_iff, List.find?_eq_none]
  intro e he
  have hne : e.1 ≠ name := fun heq => h (heq ▸ List.mem_map_of_mem he)
  simpa using hne

theorem IsLast.lastValue? {e : String × String} (h : IsLast given e) :
    StartCommand.lastValue? given e.1 = some e.2 := by
  obtain ⟨before, after, rfl, hafter⟩ := h
  have hnone : StartCommand.lastValue? after e.1 = none := by
    rw [lastValue?_eq_none_iff, List.mem_map]
    rintro ⟨e', he', hname⟩
    exact hafter e' he' hname
  rw [List.append_cons, lastValue?_append, hnone, Option.none_or, lastValue?_concat, if_pos rfl]

/-- A flag that is passed on has its last value. -/
theorem PassedOn.get? {extra : ExtraFlags} (h : PassedOn given extra.entries) (name : String) :
    extra.get? name = if isPassedOn name then lastValue? given name else none := by
  by_cases hmem : name ∈ extra.entries.map (·.1)
  · obtain ⟨e, he⟩ : ∃ e, extra.entries.find? (·.1 = name) = some e := by
      rw [← Option.isSome_iff_exists, List.find?_isSome]
      simpa using List.mem_map.mp hmem
    have hname : e.1 = name := by simpa using List.find?_some he
    rw [if_pos (h.mem_names_iff.mp hmem).2, ExtraFlags.get?, he, ← hname,
      (h.last e (List.mem_of_find?_eq_some he)).lastValue?]
    rfl
  · rw [get?_eq_none_of_notMem hmem]
    split
    · rename_i hname
      exact (lastValue?_eq_none_iff.mpr fun hgiven =>
        hmem (h.mem_names_iff.mpr ⟨hgiven, hname⟩)).symm
    · rfl

/-- What is passed on is settled by what was given. -/
theorem PassedOn.unique {entries entries' : List (String × String)} (h : PassedOn given entries)
    (h' : PassedOn given entries') : entries' = entries := by
  have hvalues {entries : List (String × String)} (h : PassedOn given entries) :
      (entries.map (·.1)).map (fun name => (name, (lastValue? given name).getD "")) = entries := by
    rw [List.map_map]
    refine (List.map_congr_left fun e he => ?_).trans (List.map_id entries)
    simp [(h.last e he).lastValue?]
  rw [← hvalues h, ← hvalues h', h.names, h'.names]

/-! ## A whole command -/

/-- Each field of the flags comes from its own flags. -/
structure FromOwn (given : List (String × String)) (flags : StartFlags) : Prop where
  sqlPort : Holds DenotesPort (sqlPortText? given) 26257 flags.sqlPort
  grpcPort : Holds DenotesPort (grpcPortText? given) 26258 flags.grpcPort
  httpPort : Holds DenotesPort (httpPortText? given) 8080 flags.httpPort
  join : Holds DenotesNodes (lastValue? given "--join") [] flags.join
  insecure : Holds DenotesBool (lastValue? given "--insecure") false flags.insecure
  locality : Holds DenotesTiers (lastValue? given "--locality") [] flags.locality
  walFailover : flags.walFailover = lastValue? given "--wal-failover"
  logConfigFile : flags.logConfigFile = lastValue? given "--log-config-file"
  stores : flags.stores = (given.filter fun e => e.1 ∈ ["--store", "-s"]).map (·.2)
  extra : ∀ name, flags.extra.get? name = if isPassedOn name then lastValue? given name else none
  passedOn : PassedOn given flags.extra.entries

theorem fromOwn_of_parse {parts words : List String} {flags : StartFlags}
    (hwords : Follows (tokenize parts) words) (hread : Reads words given)
    (h : parse parts = .ok flags) : FromOwn given flags := by
  obtain ⟨settled, rfl, hsettled⟩ := exists_settled_of_parse hwords hread h
  have hstart : PassedOn [] ({} : Settled).extra.entries := ⟨rfl, nofun⟩
  have hfields : SettlesFields ([] ++ given) settled :=
    addAll_keeps SettlesFields.add settlesFields_nil hsettled
  have htexts : Settles ([] ++ given) settled := addAll_keeps Settles.add settles_nil hsettled
  have hpassed : PassedOn ([] ++ given) settled.extra.entries :=
    addAll_keeps (P := fun given s => PassedOn given s.extra.entries) PassedOn.add hstart hsettled
  rw [List.nil_append] at hfields htexts hpassed
  constructor
  case sqlPort => exact holds_getD (rel_or hfields.sqlAddress.address hfields.port.alone) _
  case grpcPort => exact holds_getD hfields.listenAddress.address _
  case httpPort => exact holds_getD (rel_or hfields.httpAddress.address hfields.httpPort.alone) _
  case join => exact hfields.join.imp fun h => readJoin_eq_iff.mp (Except.ok.inj h)
  case insecure => exact hfields.insecure.imp readBool_eq_ok.mp
  case locality => exact hfields.locality.imp readLocality_eq_ok.mp
  case walFailover => exact htexts.walFailover
  case logConfigFile => exact htexts.logConfigFile
  case stores => exact htexts.stores
  case passedOn => exact hpassed
  case extra => exact hpassed.get?

/-! ## Neighbours -/

/-- Two flags that do not give their values to one field. -/
def GiveApart (name name' : String) : Prop :=
  name ≠ name' ∧ ¬ (name ∈ ["--store", "-s"] ∧ name' ∈ ["--store", "-s"])

instance (name name' : String) : Decidable (GiveApart name name') :=
  inferInstanceAs (Decidable (_ ∧ _))

/-- Flags that agree on the last values, and on the stores, agree in everything but the order of
those that are passed on. -/
theorem FromOwn.agree {given' : List (String × String)} {flags flags' : StartFlags}
    (h : FromOwn given flags) (h' : FromOwn given' flags')
    (hlast : ∀ name, lastValue? given' name = lastValue? given name)
    (hstores : given'.filter (fun e => e.1 ∈ ["--store", "-s"])
      = given.filter fun e => e.1 ∈ ["--store", "-s"]) :
    flags' = { flags with extra := flags'.extra }
      ∧ ∀ name, flags'.extra.get? name = flags.extra.get? name := by
  have hsql := h'.sqlPort
  have hgrpc := h'.grpcPort
  have hhttp := h'.httpPort
  have hjoin := h'.join
  have hinsecure := h'.insecure
  have hlocality := h'.locality
  simp only [sqlPortText?, grpcPortText?, httpPortText?, hlast] at hsql hgrpc hhttp
  rw [hlast] at hjoin hinsecure hlocality
  refine ⟨?_, fun name => by rw [h'.extra, h.extra, hlast]⟩
  calc flags' = ⟨flags'.sqlPort, flags'.grpcPort, flags'.httpPort, flags'.join, flags'.insecure,
        flags'.locality, flags'.walFailover, flags'.stores, flags'.logConfigFile,
        flags'.extra⟩ := rfl
    _ = { flags with extra := flags'.extra } := by
      rw [h.sqlPort.unique hsql DenotesPort.unique, h.grpcPort.unique hgrpc DenotesPort.unique,
        h.httpPort.unique hhttp DenotesPort.unique, h.join.unique hjoin DenotesNodes.unique,
        h.insecure.unique hinsecure DenotesBool.unique,
        h.locality.unique hlocality DenotesTiers.unique, h'.walFailover, h'.logConfigFile,
        h'.stores, hlast, hlast, hstores, ← h.walFailover, ← h.logConfigFile, ← h.stores]

/-- A command has one meaning. -/
theorem FromOwn.unique {flags' : StartFlags} (h : FromOwn given flags) (h' : FromOwn given flags') :
    flags' = flags := by
  obtain ⟨hfields, -⟩ := h.agree h' (fun _ => rfl) rfl
  have hextra : flags'.extra = flags.extra := by
    have hentries := h.passedOn.unique h'.passedOn
    cases hflags : flags.extra
    cases hflags' : flags'.extra
    simpa [hflags, hflags'] using hentries
  rw [hfields, hextra]

/-- A flag and its value make one word, which is left as it is. -/
def InOneWord (e : String × String) : Prop :=
  isFlag e.1 = true ∧ '=' ∉ e.1.toList ∧ tokenize [joined e] = [joined e]

instance : DecidablePred InOneWord := fun _ => inferInstanceAs (Decidable (_ ∧ _ ∧ _))

instance (name value : String) : Decidable (Readable name value) :=
  decidable_of_iff ((Settled.addFlag {} name value).isOk = true) <| by
    rw [← exists_addFlag_iff (s := {})]
    cases Settled.addFlag {} name value with
    | ok s => exact iff_of_true rfl ⟨s, rfl⟩
    | error e => exact iff_of_false nofun nofun

theorem follows_inOneWord (h : ∀ e ∈ given, InOneWord e) :
    Follows (tokenize ("start" :: given.map joined)) (given.map joined) := by
  have hwhole : ∀ part ∈ "start" :: given.map joined, partWords part = [part] := by
    refine List.forall_mem_cons.mpr ⟨by decide, List.forall_mem_map.mpr fun e he => ?_⟩
    have hword := (h e he).2.2
    rwa [tokenize, List.flatMap_singleton] at hword
  rw [tokenize_of_whole hwhole]
  exact follows_start _

theorem reads_inOneWord (h : ∀ e ∈ given, InOneWord e) : Reads (given.map joined) given :=
  reads_joined fun e he => ⟨(h e he).1, (h e he).2.1⟩

end StartCommand

open StartCommand in
/-- Flags that are given in one word each are accepted exactly when every value can be read, also
one that a later flag overrides. Each field then comes from its own flags. Neighbours that do not
give their values to one field may change places: this changes nothing but the order of those
that are passed on. -/
theorem parse_ownFlags {given : List (String × String)} (hgiven : ∀ e ∈ given, InOneWord e) :
    ((∃ flags, parse ("start" :: given.map joined) = .ok flags) ↔
        ∀ e ∈ given, Readable e.1 e.2)
      ∧ (∀ flags, parse ("start" :: given.map joined) = .ok flags → FromOwn given flags)
      ∧ ∀ before e e' after, given = before ++ e :: e' :: after → GiveApart e.1 e'.1 →
        ((∃ flags, parse ("start" :: (before ++ e' :: e :: after).map joined) = .ok flags) ↔
            ∃ flags, parse ("start" :: given.map joined) = .ok flags)
          ∧ ∀ flags flags', parse ("start" :: given.map joined) = .ok flags →
            parse ("start" :: (before ++ e' :: e :: after).map joined) = .ok flags' →
            flags' = { flags with extra := flags'.extra }
              ∧ ∀ name, flags'.extra.get? name = flags.extra.get? name := by
  have haccepted := exists_parse_iff (follows_inOneWord hgiven) (reads_inOneWord hgiven)
  refine ⟨haccepted, fun flags h =>
    fromOwn_of_parse (follows_inOneWord hgiven) (reads_inOneWord hgiven) h,
    fun before e e' after heq hapart => ?_⟩
  have hmem {x : String × String} : x ∈ before ++ e' :: e :: after ↔ x ∈ given := by
    rw [heq]
    simp [or_left_comm]
  have hswapped : ∀ x ∈ before ++ e' :: e :: after, InOneWord x :=
    fun x hx => hgiven x (hmem.mp hx)
  refine ⟨?_, fun flags flags' h h' => ?_⟩
  · rw [exists_parse_iff (follows_inOneWord hswapped) (reads_inOneWord hswapped), haccepted]
    exact forall_congr' fun x => imp_congr_left hmem
  · have hfrom := fromOwn_of_parse (follows_inOneWord hgiven) (reads_inOneWord hgiven) h
    have hfrom' := fromOwn_of_parse (follows_inOneWord hswapped) (reads_inOneWord hswapped) h'
    subst heq
    refine hfrom.agree hfrom' (lastValue?_swap hapart.1 before after) (filter_swap ?_ _ _)
    simpa using hapart.2

/-- Ports in two ways, stores under both names, and nodes, a locality and a cache that are given
again. -/
def mixedFlags (first second : String × String) : List (String × String) :=
  [("--port", "+080"), ("--sql-addr", "h:9"), ("--join", "a"), ("--insecure", "false"),
    ("--locality", "zone=z")] ++ first :: second ::
    [("--sql-addr", "h"), ("-s", "a"), ("--store", "b"), ("--cache", "2"),
      ("--join", "$(b ,c),,d"), ("--insecure", ""), ("--locality", "region=e,,zone=f=g")]

open StartCommand in
theorem parse_mixedFlags :
    ∃ flags flags',
      parse ("start" :: (mixedFlags ("--x", "1") ("--cache", "1")).map joined) = .ok flags
        ∧ parse ("start" :: (mixedFlags ("--cache", "1") ("--x", "1")).map joined) = .ok flags'
        ∧ flags.sqlPort = 80 ∧ flags.grpcPort = 26258 ∧ flags.stores = ["a", "b"]
        ∧ flags.join = ["$(b", "c)", "d"] ∧ flags.insecure = true
        ∧ flags.locality = [("region", "e"), ("zone", "f=g")]
        ∧ flags.extra.get? "--cache" = some "2"
        ∧ flags' = { flags with extra := flags'.extra }
        ∧ flags'.extra.get? "--cache" = flags.extra.get? "--cache" := by
  have hone : ∀ e ∈ mixedFlags ("--x", "1") ("--cache", "1"), InOneWord e := by decide +kernel
  obtain ⟨haccepted, hown, hswap⟩ := parse_ownFlags hone
  obtain ⟨hsame, hagree⟩ := hswap [("--port", "+080"), ("--sql-addr", "h:9"), ("--join", "a"),
    ("--insecure", "false"), ("--locality", "zone=z")] ("--x", "1") ("--cache", "1") _ rfl
    (by decide)
  obtain ⟨flags, hflags⟩ := haccepted.mpr (by decide +kernel)
  obtain ⟨flags', hflags'⟩ := hsame.mpr ⟨flags, hflags⟩
  obtain ⟨hfields, hextra⟩ := hagree flags flags' hflags hflags'
  have hfrom := hown flags hflags
  have hport : DenotesPort "+080" 80 := ⟨⟨"+", by simp, 1, by decide⟩, by decide⟩
  have hjoin : DenotesNodes "$(b ,c),,d" ["$(b", "c)", "d"] :=
    ⟨["$(b ", "c)", "", "d"], ⟨by decide, by decide, by decide⟩, by decide⟩
  have hlocality : DenotesTiers "region=e,,zone=f=g" [("region", "e"), ("zone", "f=g")] :=
    ⟨["region=e", "", "zone=f=g"], ⟨by decide, by decide, by decide⟩, by decide, by decide⟩
  exact ⟨flags, flags', hflags, hflags', hport.unique hfrom.sqlPort, hfrom.grpcPort, hfrom.stores,
    hjoin.unique hfrom.join, DenotesBool.empty.unique hfrom.insecure,
    hlocality.unique hfrom.locality, hfrom.extra "--cache", hfields, hextra "--cache"⟩

end Handover
