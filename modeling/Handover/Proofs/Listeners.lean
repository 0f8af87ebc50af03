import Handover.Proofs.CrdbNodes
import Handover.Proofs.OwnFlags

/-!
# Listeners with ports of their own

A node that is run by the operator listens for SQL and for the other nodes apart. The port of each
listener comes from flags of its own and, where none of them gives one, from a default of its own;
the two are never compared. So a default can be the port that was given for the other listener, and
unless a command gives one port twice, this is how the two become one (`parse_listeners`).
-/

namespace Handover

namespace StartCommand

/-! ## Ports that are given -/

/-- The flags that give the ports of the two listeners. -/
def listenerFlags : List String := ["--sql-addr", "--port", "--listen-addr"]

/-- A value of a flag gives a port, also when a later one overrides it. -/
def GivesPort (given : List (String × String)) (flag : String) (port : UInt16) : Prop :=
  ∃ value, (flag, value) ∈ given ∧
    ∃ text ∈ if flag = "--port" then some value else portText? value, DenotesPort text port

/-- No port is given in two different flags of the listeners. -/
def GivesPortsOnce (given : List (String × String)) : Prop :=
  ∀ flag ∈ listenerFlags, ∀ flag' ∈ listenerFlags, ∀ port,
    GivesPort given flag port → GivesPort given flag' port → flag = flag'

variable {given : List (String × String)} {text : String} {port : UInt16}

theorem givesPort_of_address {flag : String} (hflag : flag ≠ "--port")
    (h : (lastValue? given flag).bind portText? = some text) (hport : DenotesPort text port) :
    GivesPort given flag port := by
  obtain ⟨value, hvalue, htext⟩ := Option.bind_eq_some_iff.mp h
  refine ⟨value, mem_of_lastValue? hvalue, text, ?_, hport⟩
  rwa [if_neg hflag]

theorem givesPort_of_grpcPortText? (h : grpcPortText? given = some text)
    (hport : DenotesPort text port) : GivesPort given "--listen-addr" port :=
  givesPort_of_address (by decide) h hport

theorem givesPort_of_sqlPortText? (h : sqlPortText? given = some text)
    (hport : DenotesPort text port) :
    ∃ flag ∈ ["--sql-addr", "--port"], GivesPort given flag port := by
  rcases Option.or_eq_some_iff.mp h with haddress | ⟨-, halone⟩
  · exact ⟨"--sql-addr", by simp, givesPort_of_address (by decide) haddress hport⟩
  · exact ⟨"--port", by simp, text, mem_of_lastValue? halone, text, rfl, hport⟩

/-! ## The two ports -/

/-- A port that is given for one listener is the default of the other, for which none is given. -/
def MeetsDefault (given : List (String × String)) : Prop :=
  (sqlPortText? given = none ∧ ∃ text ∈ grpcPortText? given, DenotesPort text 26257)
    ∨ (grpcPortText? given = none ∧ ∃ text ∈ sqlPortText? given, DenotesPort text 26258)

/-- Ports that are given for both listeners differ when no port is given twice. -/
theorem GivesPortsOnce.ne (h : GivesPortsOnce given) {text' : String} {port' : UInt16}
    (hsql : sqlPortText? given = some text) (hport : DenotesPort text port)
    (hgrpc : grpcPortText? given = some text') (hport' : DenotesPort text' port') :
    port ≠ port' := by
  rintro rfl
  obtain ⟨flag, hflag, hgives⟩ := givesPort_of_sqlPortText? hsql hport
  have hlisten := givesPort_of_grpcPortText? hgrpc hport'
  rcases List.mem_cons.mp hflag with rfl | hflag
  · exact absurd (h _ (by decide) _ (by decide) port hgives hlisten) (by decide)
  · obtain rfl := List.mem_singleton.mp hflag
    exact absurd (h _ (by decide) _ (by decide) port hgives hlisten) (by decide)

/-- A port is not its default when it is the one that is given. -/
theorem Holds.eq_iff {text? : Option String} {default other : UInt16}
    (h : Holds DenotesPort text? default port) (hne : other ≠ default) :
    port = other ↔ ∃ text ∈ text?, DenotesPort text other := by
  cases text? with
  | none => exact iff_of_false (fun heq => hne (heq.symm.trans h)) nofun
  | some text =>
    constructor
    · rintro rfl
      exact ⟨text, rfl, h⟩
    · rintro ⟨text', htext, hport⟩
      obtain rfl := Option.some.inj htext
      exact hport.unique h

theorem FromOwn.ports_eq_iff {flags : StartFlags} (h : FromOwn given flags)
    (honce : GivesPortsOnce given) :
    flags.sqlPort = flags.grpcPort ↔ MeetsDefault given := by
  obtain ⟨hsql, hgrpc⟩ := And.intro h.sqlPort h.grpcPort
  cases hsqlText : sqlPortText? given with
  | none =>
    have hdefault : flags.sqlPort = 26257 := by rwa [hsqlText] at hsql
    rw [hdefault, eq_comm, hgrpc.eq_iff (by decide)]
    simp [MeetsDefault, hsqlText]
  | some text =>
    cases hgrpcText : grpcPortText? given with
    | none =>
      have hdefault : flags.grpcPort = 26258 := by rwa [hgrpcText] at hgrpc
      rw [hdefault, hsql.eq_iff (by decide)]
      simp [MeetsDefault, hsqlText, hgrpcText]
    | some text' =>
      rw [hsqlText] at hsql
      rw [hgrpcText] at hgrpc
      refine iff_of_false (honce.ne hsqlText hsql hgrpcText hgrpc) ?_
      simp [MeetsDefault, hsqlText, hgrpcText]

end StartCommand

namespace CrdbNodes

theorem portField_injective {port port' : UInt16} (h : portField port = portField port') :
    port = port' := by
  have hbound (p : UInt16) : (portField p).toInt = p.toNat := by
    have hlt := p.toNat_lt
    exact Int32.toInt_ofInt_of_le (by omega) (by omega)
  have hint := congrArg Int32.toInt h
  rw [hbound, hbound] at hint
  exact UInt16.toNat_inj.mp (Int.ofNat_inj.mp hint)

theorem ports_of_node {o : ClusterObservation} {n : NodeObservation} {trust : TrustMap}
    {target : Target} {c : Kubernetes.CrdbNode} (h : node o n trust target = .ok c) :
    c.spec.sqlPort = c.spec.grpcPort ↔ n.flags.sqlPort = n.flags.grpcPort := by
  obtain ⟨stores, -, h⟩ := Outcome.bind_eq_ok.mp h
  obtain rfl := Outcome.pure_eq_ok.mp h
  exact ⟨fun heq => portField_injective (Option.some.inj heq), fun heq => by rw [heq]⟩

end CrdbNodes

open StartCommand in
/-- Where an accepted command does not give one port in two flags of the listeners, the two ports
are the same exactly when the one that is given for a listener is the default of the other, for
which none is given. The CrdbNodes that are made for it have the same two ports. -/
theorem parse_listeners {parts : List String} {flags : StartFlags} (h : parse parts = .ok flags) :
    ∃ words given, Follows (tokenize parts) words ∧ Reads words given
      ∧ (GivesPortsOnce given → (flags.sqlPort = flags.grpcPort ↔ MeetsDefault given))
      ∧ ∀ (o : ClusterObservation) (n : NodeObservation) (trust : TrustMap) (target : Target)
          (c : Kubernetes.CrdbNode), n.flags = flags → CrdbNodes.node o n trust target = .ok c →
        (c.spec.sqlPort = c.spec.grpcPort ↔ flags.sqlPort = flags.grpcPort) := by
  obtain ⟨words, given, hwords, hread, -⟩ := passedOn_of_parse h
  have hfrom := fromOwn_of_parse hwords hread h
  refine ⟨words, given, hwords, hread, hfrom.ports_eq_iff, fun o n trust target c hflags hc => ?_⟩
  obtain rfl := hflags
  exact CrdbNodes.ports_of_node hc

/-- Each listener is given the default of the other. -/
def crossedParts : List String := ["start --port=26258", "--listen-addr=h:26257"]

open StartCommand in
theorem parse_crossed :
    ∃ flags, parse crossedParts = .ok flags ∧ flags.sqlPort ≠ flags.grpcPort := by
  let given := [("--port", "26258"), ("--listen-addr", "h:26257")]
  obtain ⟨flags, hflags⟩ := Outcome.exists_of_isOk (x := parse crossedParts) (by decide +kernel)
  obtain ⟨words, given', hwords, hread, hports, -⟩ := parse_listeners hflags
  have hgiven : Reads (behindSubcommand (tokenize crossedParts)) given :=
    reads_iff.mpr (by decide +kernel)
  obtain rfl := (follows_iff.mp hwords).symm
  obtain rfl := hread.unique hgiven
  have honce : GivesPortsOnce given := by
    have hpart : DenotesPort "26258" 26258 := ⟨⟨"", by simp, 0, by decide⟩, by decide⟩
    have hlisten : DenotesPort "26257" 26257 := ⟨⟨"", by simp, 0, by decide⟩, by decide⟩
    have hgives {flag : String} {port : UInt16} (h : GivesPort given flag port) :
        flag = "--port" ∧ port = 26258 ∨ flag = "--listen-addr" ∧ port = 26257 := by
      obtain ⟨value, hvalue, text, htext, hport⟩ := h
      rcases List.mem_cons.mp hvalue with heq | hvalue
      · obtain ⟨rfl, rfl⟩ := Prod.mk.inj heq
        obtain rfl := Option.some.inj htext
        exact .inl ⟨rfl, hpart.unique hport⟩
      · obtain ⟨rfl, rfl⟩ := Prod.mk.inj (List.mem_singleton.mp hvalue)
        obtain rfl := Option.some.inj htext
        exact .inr ⟨rfl, hlisten.unique hport⟩
    intro flag _ flag' _ port h h'
    rcases hgives h with ⟨rfl, rfl⟩ | ⟨rfl, rfl⟩ <;> rcases hgives h' with ⟨rfl, h⟩ | ⟨rfl, h⟩
    all_goals first
      | rfl
      | exact absurd h (by decide)
  refine ⟨flags, hflags, fun heq => ?_⟩
  rcases (hports honce).mp heq with ⟨hnone, -⟩ | ⟨hnone, -⟩
  · exact absurd hnone (by decide +kernel)
  · exact absurd hnone (by decide +kernel)

open StartCommand in
/-- It is not so that the two ports always differ when no port is given twice: the one that is given
for SQL can be the default between nodes. -/
theorem not_always_split :
    ¬ ∀ (parts words : List String) (given : List (String × String)) (flags : StartFlags),
      Follows (tokenize parts) words → Reads words given → GivesPortsOnce given →
      parse parts = .ok flags → flags.sqlPort ≠ flags.grpcPort := by
  intro halways
  have honce : GivesPortsOnce [("--port", "26258")] := by
    rintro flag - flag' - port ⟨value, hvalue, -⟩ ⟨value', hvalue', -⟩
    exact (Prod.mk.inj (List.mem_singleton.mp hvalue)).1.trans
      (Prod.mk.inj (List.mem_singleton.mp hvalue')).1.symm
  obtain ⟨flags, hflags⟩ :=
    Outcome.exists_of_isOk (x := parse ["start", "--port=26258"]) (by decide +kernel)
  have hwords : Follows (tokenize ["start", "--port=26258"]) ["--port=26258"] :=
    follows_iff.mpr (by decide +kernel)
  have hread : Reads ["--port=26258"] [("--port", "26258")] := reads_iff.mpr (by decide +kernel)
  have hdefault : MeetsDefault [("--port", "26258")] :=
    .inr ⟨by decide +kernel, "26258", rfl, ⟨"", by simp, 0, by decide⟩, by decide⟩
  exact halways _ _ _ flags hwords hread honce hflags
    (((fromOwn_of_parse hwords hread hflags).ports_eq_iff honce).mpr hdefault)

end Handover
