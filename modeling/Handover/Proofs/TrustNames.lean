import Handover.Proofs.LoggingKept
import Handover.Proofs.Reruns

/-!
# One name for each piece of trust material

The renames of a cluster are decided once, and everything that names trust material has to follow
them: the check that the objects of the source exist, the request to rename them, the CrdbNodes and
the values of either chart. The two targets have fields of their own for the names
(`Trust.Purpose.operatorField`, `Trust.Purpose.legacyField`), so it is stated of a document that it
gives, for each purpose, the name of the rename of that purpose and no other
(`Value.NamesTargets`). The renames of the way there are those of the way back read in the other
direction, once the CrdbNodes have the names (`TrustMap.ofObservation_back`).
-/

namespace Handover

open Kubernetes Manifest Yaml

/-! ## Renames for every purpose -/

namespace Trust

/-- A rename in the other direction. -/
def Rename.swapped (rename : Rename) : Rename where
  purpose := rename.purpose
  source := rename.target
  target := rename.source

/-- The field in which the operator is given a name. -/
def Purpose.operatorField : Purpose → String
  | .ca => "caConfigMapName"
  | .node => "nodeSecretName"
  | .client => "rootSqlClientSecretName"

/-- The field in which the chart of a StatefulSet is given a name. The authority is a key of the
nodes' Secret. -/
def Purpose.legacyField : Purpose → String
  | .ca | .node => "nodeSecret"
  | .client => "clientRootSecret"

theorem Purpose.exists_iff {p : Purpose → Prop} :
    (∃ purpose, p purpose) ↔ p .ca ∨ p .node ∨ p .client := by
  constructor
  · rintro ⟨_ | _ | _, h⟩ <;> simp [h]
  · rintro (h | h | h) <;> exact ⟨_, h⟩

end Trust

namespace TrustMap

open Trust

/-- The renames in the other direction. -/
def swapped (trust : TrustMap) : TrustMap := ⟨trust.renames.map Rename.swapped⟩

/-- One rename for each purpose. -/
def each (source target : Purpose → Ref) : TrustMap :=
  ⟨purposes.map fun purpose => ⟨purpose, source purpose, target purpose⟩⟩

/-- The object of a purpose is renamed to one of a name. -/
def Targets (trust : TrustMap) (purpose : Purpose) (name : String) : Prop :=
  ∃ rename ∈ trust.renames, rename.purpose = purpose ∧ rename.target.name = name

variable {source target : Purpose → Ref}

theorem swapped_each : (each source target).swapped = each target source := rfl

theorem targets_each {purpose : Purpose} {name : String} :
    (each source target).Targets purpose name ↔ (target purpose).name = name := by
  cases purpose <;> simp [Targets, each, purposes]

theorem ofObservation_secure {o : ClusterObservation} (h : o.secure = true)
    (direction : Direction) :
    ofObservation direction o = match direction with
      | .toCrdbNodes => each (legacyRef o.cluster) (operatorRef (operatorNames o.cluster))
      | .toStatefulSet =>
        each (operatorRef (o.certificates.getD (operatorNames o.cluster)))
          (legacyRef o.cluster) := by
  cases direction <;> simp [ofObservation, h, each]

theorem ofObservation_insecure {o : ClusterObservation} (h : o.secure = false)
    (direction : Direction) : ofObservation direction o = {} := by
  simp [ofObservation, h]

theorem purposes_ofObservation (direction : Direction) (o : ClusterObservation) :
    (ofObservation direction o).renames.map (·.purpose)
      = if o.secure then purposes else [] := by
  cases hsecure : o.secure with
  | true => cases direction <;> rw [ofObservation_secure hsecure] <;> rfl
  | false => rw [ofObservation_insecure hsecure]; rfl

theorem isEmpty_ofObservation (direction : Direction) (o : ClusterObservation) :
    (ofObservation direction o).isEmpty = !o.secure := by
  rw [isEmpty, ← List.isEmpty_map (f := Rename.purpose), purposes_ofObservation]
  cases o.secure <;> rfl

end TrustMap

/-! ## Names in documents -/

/-- A document names trust material under a path: the texts that it has there are the names of the
targets, each in the field for its purpose. Without renames it has nothing there. -/
structure Yaml.Value.NamesTargets (document : Value) (path : List String)
    (field : Trust.Purpose → String) (trust : TrustMap) : Prop where
  named : ∀ key name, document.path? (path ++ [key]) = some (.text name) ↔
    ∃ purpose, field purpose = key ∧ trust.Targets purpose name
  absent : trust = {} → document.path? path = none

section Documents

variable {document : Value} {path : List String} {field : Trust.Purpose → String}

theorem Yaml.Value.namesTargets_empty (h : document.path? path = none) :
    document.NamesTargets path field {} where
  named key name := by
    rw [Value.path?_append, h]
    simp [TrustMap.Targets]
  absent _ := h

theorem Yaml.Value.namesTargets_each {inside : Value} {source target : Trust.Purpose → Trust.Ref}
    (h : document.path? path = some inside)
    (hinside : ∀ key name, inside.field? key = some (.text name) ↔
      ∃ purpose, field purpose = key ∧ (target purpose).name = name) :
    document.NamesTargets path field (.each source target) where
  named key name := by
    rw [Value.path?_append, h, Option.bind_some]
    simp only [TrustMap.targets_each, ← hinside]
    rw [Value.path?]
    cases inside.field? key <;> simp [Value.path?]
  absent hempty := nomatch congrArg TrustMap.renames hempty

end Documents

/-! ## CrdbNodes and their values -/

namespace CrdbNodes

open Manifest.Entries

variable {o : ClusterObservation} {trust : TrustMap} {target : Target}

/-- A block of names says under the field of each purpose what object it names for it. -/
theorem field?_names (names : ExternalCertificates) (key name : String) :
    (ExternalCertificates.codec.write names).field? key = some (.text name) ↔
      ∃ purpose : Trust.Purpose, purpose.operatorField = key
        ∧ (TrustMap.operatorRef names purpose).name = name := by
  rw [ExternalCertificates.codec, Codec.record, lookup_record, Trust.Purpose.exists_iff]
  simp only [List.find?_append, Fields.find?_one, Codec.text, Trust.Purpose.operatorField,
    TrustMap.operatorRef]
  by_cases hca : "caConfigMapName" = key
  · subst hca
    simp
  by_cases hnode : "nodeSecretName" = key
  · subst hnode
    simp
  by_cases hclient : "rootSqlClientSecretName" = key
  · subst hclient
    simp
  simp [hca, hnode, hclient]

theorem externalCertificates_each {source : Trust.Purpose → Trust.Ref}
    (names : ExternalCertificates) :
    externalCertificates (.each source (TrustMap.operatorRef names)) = some names := rfl

theorem namesTargets {document : Value} {path : List String}
    (h : document.path? path = (externalCertificates (.ofObservation .toCrdbNodes o)).map
      ExternalCertificates.codec.write) :
    document.NamesTargets path Trust.Purpose.operatorField
      (.ofObservation .toCrdbNodes o) := by
  cases hsecure : o.secure with
  | true =>
    -- the block is the one that the names of the targets were taken from
    rw [TrustMap.ofObservation_secure hsecure] at h ⊢
    rw [externalCertificates_each] at h
    exact Value.namesTargets_each h (field?_names _)
  | false =>
    rw [TrustMap.ofObservation_insecure hsecure] at h ⊢
    exact Value.namesTargets_empty h

theorem certificates_of_node {n : NodeObservation} {c : CrdbNode}
    (h : node o n trust target = .ok c) :
    c.spec.certificates = (externalCertificates trust).map fun names => ⟨some names⟩ := by
  obtain ⟨stores, -, h⟩ := Outcome.bind_eq_ok.mp h
  obtain rfl := Outcome.pure_eq_ok.mp h
  rfl

theorem path?_certificates (c : CrdbNode) :
    (CrdbNode.codec.write c).path? ["spec", "certificates", "externalCertificates"]
      = (c.spec.certificates.bind (·.externalCertificates)).map
        ExternalCertificates.codec.write := by
  have hspec : (CrdbNodeSpec.codec.write c.spec).field? "certificates"
      = c.spec.certificates.map Certificates.codec.write := by
    rw [CrdbNodeSpec.codec, Codec.record, lookup_record]
    simp [Fields.find?_opt, Fields.find?_many, Function.comp_def]
  have hblock (certificates : Certificates) :
      (Certificates.codec.write certificates).path? ["externalCertificates"]
        = certificates.externalCertificates.map ExternalCertificates.codec.write := by
    rw [Certificates.codec, Codec.record, Value.path?, lookup_record, Fields.find?_opt]
    cases certificates.externalCertificates <;> rfl
  rw [Value.path?, field?_crdbNode_spec, Option.bind_some, Value.path?, hspec]
  cases c.spec.certificates with
  | none => rfl
  | some certificates => exact hblock certificates

theorem path?_tls {built : List CrdbNode} {chart : Value}
    (h : CrdbNodes.values o built trust target = .ok chart) (keys : List String) :
    chart.path? ("cockroachdb" :: "tls" :: keys)
      = (tlsValues trust).asSection.bind fun v => v.path? keys := by
  obtain ⟨first, -, h⟩ := Outcome.bind_eq_ok.mp h
  obtain ⟨code, -, h⟩ := Outcome.bind_eq_ok.mp h
  obtain rfl := Outcome.pure_eq_ok.mp h
  rw [Value.path?_map]
  simp [lookup_putEntries, lookup_nil, asSection_bind_path?, lookup_putText?_of_ne]

theorem tls_of_values {built : List CrdbNode} {chart : Value}
    (h : CrdbNodes.values o built trust target = .ok chart) :
    chart.path? ["cockroachdb", "tls", "enabled"] = some (.bool !trust.isEmpty)
      ∧ chart.path? ["cockroachdb", "tls", "externalCertificates", "certificates"]
        = (externalCertificates trust).map ExternalCertificates.codec.write := by
  have hblock (names : ExternalCertificates) :
      (((Entries.putBool [] "enabled" true).putObject "certificates" ExternalCertificates.codec
        names).asSection.bind fun v => v.path? ["certificates"])
      = some (ExternalCertificates.codec.write names) := by
    rw [asSection_bind_path?, putObject, lookup_put, if_pos ⟨rfl, rfl⟩]
    rfl
  rw [path?_tls h, path?_tls h, asSection_bind_path?, asSection_bind_path?, tlsValues]
  cases externalCertificates trust with
  | none => exact ⟨rfl, rfl⟩
  | some names =>
    rw [lookup_putEntries, lookup_putEntries, if_neg (by decide), if_pos rfl]
    exact ⟨rfl, hblock names⟩

end CrdbNodes

/-! ## Values of a StatefulSet -/

namespace LegacyChart

open Manifest.Entries

variable {o : ClusterObservation} {trust : TrustMap} {target : Target} {chart : Value}

/-- What the chart is told of the trust material of a cluster. -/
def certValues (cluster : String) : Entries := [
  (.text "provided", .bool true),
  (.text "nodeSecret", .text (TrustMap.legacyNodeSecret cluster)),
  (.text "clientRootSecret", .text (TrustMap.legacyClientSecret cluster))]

/-- The chart is given two names, of which the one of the nodes stands for the authority too. -/
theorem lookup_certValues (cluster key name : String) :
    Value.lookup key (certValues cluster) = some (.text name) ↔
      ∃ purpose : Trust.Purpose, purpose.legacyField = key
        ∧ (TrustMap.legacyRef cluster purpose).name = name := by
  rw [Trust.Purpose.exists_iff]
  simp only [Trust.Purpose.legacyField, TrustMap.legacyRef, or_self_left]
  by_cases hnode : "nodeSecret" = key
  · subst hnode
    simp [certValues, Value.lookup]
  by_cases hclient : "clientRootSecret" = key
  · subst hclient
    simp [certValues, Value.lookup]
  by_cases hprovided : "provided" = key <;> simp [certValues, Value.lookup, *]

theorem lookup_enabled_tlsValues (trust : TrustMap) :
    Value.lookup "enabled" (tlsValues trust) = some (.bool !trust.isEmpty) := by
  rw [tlsValues]
  split
  · rfl
  · rw [lookup_putEntries, if_neg (by decide)]
    rfl

theorem lookup_certs_tlsValues (cluster : String) {source : Trust.Purpose → Trust.Ref} :
    Value.lookup "certs" (tlsValues (.each source (TrustMap.legacyRef cluster)))
      = some (.map (certValues cluster)) := by
  -- an entry is left out when its text is empty, which no name of the chart is
  have hnode : isVoid (.text (TrustMap.legacyNodeSecret cluster)) = false := by
    simp [isVoid, TrustMap.legacyNodeSecret, toString]
  have hclient : isVoid (.text (TrustMap.legacyClientSecret cluster)) = false := by
    simp [isVoid, TrustMap.legacyClientSecret, toString]
  show Value.lookup "certs" (putEntries _ "certs" (putText (putText _ _
    (TrustMap.legacyNodeSecret cluster)) _ (TrustMap.legacyClientSecret cluster))) = _
  rw [lookup_putEntries, if_pos rfl, putText, putText, put, hclient, put, hnode]
  rfl

theorem path?_tls (h : values o trust target = .ok chart) (key : String) :
    chart.path? ["tls", key] = Value.lookup key (tlsValues trust) := by
  have htls : chart.path? ["tls"] = (tlsValues trust).asSection := by
    have hsection := asSection_of_lookup _ _ (lookup_enabled_tlsValues trust)
    obtain ⟨conf, -, h⟩ := Outcome.bind_eq_ok.mp h
    obtain rfl := Outcome.pure_eq_ok.mp h
    rw [Value.path?_map, lookup_putEntries, if_pos rfl, hsection]
    rfl
  exact path?_of_section (tlsValues trust) key htls

end LegacyChart

/-! ## Runs -/

/-- The renames of the way back, by the names that the CrdbNodes were given on the way there, are
those of the way there read in the other direction. -/
theorem TrustMap.ofObservation_back {o back : ClusterObservation} {n : NodeObservation}
    {target : Target} {c : CrdbNode} (hsecure : o.secure = true)
    (hbuilt : CrdbNodes.node o n (ofObservation .toCrdbNodes o) target = .ok c)
    (hback : back.secure = true) (hcluster : back.cluster = o.cluster)
    (hnames : back.certificates = c.spec.certificates.bind (·.externalCertificates)) :
    ofObservation .toStatefulSet back = (ofObservation .toCrdbNodes o).swapped := by
  rw [ofObservation_secure hback, ofObservation_secure hsecure, hnames,
    CrdbNodes.certificates_of_node hbuilt, ofObservation_secure hsecure,
    CrdbNodes.externalCertificates_each, hcluster, swapped_each]
  rfl

/-- Manifests name trust material where the target looks for it: every CrdbNode and the values for
the operator in their blocks of names, and the values of a StatefulSet in their section on
certificates. The values tell besides whether the cluster runs secure. -/
def Direction.NamesTrust (direction : Direction) (files : List ManifestFile) (secure : Bool)
    (trust : TrustMap) : Prop :=
  match direction with
  | .toCrdbNodes => ∃ nodes chart, files = CrdbNodes.manifests nodes chart
      ∧ (∀ c ∈ nodes, (CrdbNode.codec.write c).NamesTargets
          ["spec", "certificates", "externalCertificates"] Trust.Purpose.operatorField trust)
      ∧ chart.path? ["cockroachdb", "tls", "enabled"] = some (.bool secure)
      ∧ chart.NamesTargets ["cockroachdb", "tls", "externalCertificates", "certificates"]
          Trust.Purpose.operatorField trust
  | .toStatefulSet => ∃ chart, files.filter (·.name = "values.yaml") = [⟨"values.yaml", [chart]⟩]
      ∧ chart.path? ["tls", "enabled"] = some (.bool secure)
      ∧ chart.NamesTargets ["tls", "certs"] Trust.Purpose.legacyField trust

theorem CrdbNodes.namesTrust {o : ClusterObservation} {target : Target}
    {files : List ManifestFile}
    (h : CrdbNodes.files o (.ofObservation .toCrdbNodes o) target = .ok files) :
    Direction.NamesTrust .toCrdbNodes files o.secure (.ofObservation .toCrdbNodes o) := by
  obtain ⟨built, chart, hbuilt, hchart, rfl⟩ := CrdbNodes.files_eq_ok.mp h
  obtain ⟨henabled, hnames⟩ := tls_of_values hchart
  rw [TrustMap.isEmpty_ofObservation, Bool.not_not] at henabled
  refine ⟨built, chart, rfl, fun c hc => ?_, henabled, namesTargets hnames⟩
  -- a CrdbNode has the same block as the values
  obtain ⟨i, hi⟩ := List.mem_iff_getElem?.mp hc
  obtain ⟨n, -, hnode⟩ := getElem?_of_forall₂ hbuilt hi
  refine namesTargets ?_
  rw [path?_certificates, certificates_of_node hnode]
  cases externalCertificates (.ofObservation .toCrdbNodes o) <;> rfl

theorem LegacyChart.namesTrust {o : ClusterObservation} {target : Target}
    {files : List ManifestFile}
    (h : LegacyChart.files o (.ofObservation .toStatefulSet o) target = .ok files) :
    Direction.NamesTrust .toStatefulSet files o.secure (.ofObservation .toStatefulSet o) := by
  obtain ⟨-, -, chart, hchart, rfl⟩ := LegacyChart.files_eq_ok.mp h
  refine ⟨chart, filter_legacyChart o chart, ?_, ?_⟩
  · rw [path?_tls hchart, lookup_enabled_tlsValues, TrustMap.isEmpty_ofObservation, Bool.not_not]
  · have hcerts := path?_tls hchart "certs"
    cases hsecure : o.secure with
    | true =>
      rw [TrustMap.ofObservation_secure hsecure] at hcerts ⊢
      rw [lookup_certs_tlsValues] at hcerts
      exact Value.namesTargets_each hcerts (lookup_certValues o.cluster)
    | false =>
      rw [TrustMap.ofObservation_insecure hsecure] at hcerts ⊢
      exact Value.namesTargets_empty hcerts

/-- Trust material has one name in all places. When a run succeeds, the renames that it has asked
for are those that it reports: one for each purpose where the cluster runs secure, none where it
does not. What they rename exists in the source, and the manifests name what they rename it to, and
nothing else. For a cluster that comes back, the names that its CrdbNodes were given lead to the
same renames in the other direction. -/
theorem handOver_trustNames :
    (∀ {platform left : Platform} {r : Request} {report : Report} {tree tree' : FileTree},
      (handOver platform r : StateM FileTree _).run tree = ((.ok report, left), tree') →
      ∃ inventory o p,
        Inventory.read platform.store r.source r.namespaceName r.cluster = .ok inventory
          ∧ observe inventory = .ok o
          ∧ (prepare r).on platform = (.ok p, left)
          ∧ Emission.on (Emission.emit r.outputDir p.files) tree = (.ok report.files, tree')
          ∧ left.rekeyed = platform.rekeyed ++ [(r.namespaceName, report.trust)]
          ∧ report.trust.renames.map (·.purpose) = (if o.secure then TrustMap.purposes else [])
          ∧ (∀ rename ∈ report.trust.renames, platform.store.Holds r.namespaceName rename.source)
          ∧ report.direction.NamesTrust p.files o.secure report.trust)
    ∧ ∀ {o back : ClusterObservation} {n : NodeObservation} {target : Target} {c : CrdbNode},
      o.secure = true → CrdbNodes.node o n (.ofObservation .toCrdbNodes o) target = .ok c →
      back.secure = true → back.cluster = o.cluster →
      back.certificates = c.spec.certificates.bind (·.externalCertificates) →
      TrustMap.ofObservation .toStatefulSet back
        = (TrustMap.ofObservation .toCrdbNodes o).swapped := by
  refine ⟨fun {platform left r report tree tree'} hrun => ?_, TrustMap.ofObservation_back⟩
  obtain ⟨o, trust, files, b, paths, hdecides, hemit, rfl, rfl⟩ := handOver_eq_ok.mp hrun
  obtain ⟨inventory, hread, hobserve⟩ := hdecides.observed
  obtain ⟨hexist, rfl⟩ := TrustMap.checked_eq_ok.mp hdecides.trusted
  refine ⟨inventory, o, _, hread, hobserve,
    prepare_eq_ok.mpr ⟨o, _, files, b, hdecides, rfl, rfl⟩, hemit, rfl, ?_, ?_, ?_⟩
  · exact TrustMap.purposes_ofObservation _ o
  · rw [← ns_of_observe hread hobserve]
    exact hexist
  · show (Direction.ofSource r.source).NamesTrust files o.secure _
    have hfiles := hdecides.synthesized
    cases hsource : r.source with
    | statefulSet =>
      rw [hsource] at hfiles
      exact CrdbNodes.namesTrust (synthesize_toCrdbNodes_eq_ok.mp hfiles).2
    | crdbNode =>
      rw [hsource] at hfiles
      exact LegacyChart.namesTrust (synthesize_toStatefulSet_eq_ok.mp hfiles).2

/-- The small cluster run secure is handed over. By the names that its first CrdbNode was given, its
renames are undone on the way back. -/
theorem smallCluster_trustNames :
    ∃ (report : Report) (left : Platform) (tree : FileTree) (o : ClusterObservation)
        (p : Prepared) (c : CrdbNode),
      (handOver (SmallCluster.secure "k") (SmallCluster.handedOver "o")
          : StateM FileTree _).run {} = ((.ok report, left), tree)
        ∧ left.rekeyed = [("n", report.trust)]
        ∧ report.trust.renames.map (·.target.name)
          = ["c-1-ca-crt", "c-1-node-certs", "c-1-client-certs"]
        ∧ Direction.NamesTrust .toCrdbNodes p.files true report.trust
        ∧ CrdbNodes.node o o.first report.trust { region := some "r" } = .ok c
        ∧ TrustMap.ofObservation .toStatefulSet
            { o with certificates := c.spec.certificates.bind (·.externalCertificates) }
          = report.trust.swapped := by
  have hnamed : ((handOver (SmallCluster.secure "k") (SmallCluster.handedOver "o")
      : StateM FileTree _).run {}).1.1.map (fun report => report.trust.renames.map (·.target.name))
        = .ok ["c-1-ca-crt", "c-1-node-certs", "c-1-client-certs"] := by
    decide +kernel
  rcases hrun : (handOver (SmallCluster.secure "k") (SmallCluster.handedOver "o")
    : StateM FileTree _).run {} with ⟨⟨failure | report, left⟩, tree⟩
  · rw [hrun] at hnamed
    cases hnamed
  rw [hrun] at hnamed
  have hnamed : report.trust.renames.map (·.target.name)
      = ["c-1-ca-crt", "c-1-node-certs", "c-1-client-certs"] := Except.ok.inj hnamed
  obtain ⟨inventory, o, p, hread, hobserve, -, -, hrekeyed, hpurposes, -, hnames⟩ :=
    handOver_trustNames.1 hrun
  have hsecure : o.secure = true := by
    cases hsecure : o.secure with
    | true => rfl
    | false =>
      rw [hsecure] at hpurposes
      rw [List.map_eq_nil_iff.mp hpurposes] at hnamed
      cases hnamed
  -- the observation that the run has decided on is the one that was found
  obtain ⟨o', trust, files, b, paths, hdecides, -, rfl, -⟩ := handOver_eq_ok.mp hrun
  obtain ⟨inventory', hread', hobserve'⟩ := hdecides.observed
  obtain rfl := Except.ok.inj (hread.symm.trans hread')
  obtain rfl := Except.ok.inj (hobserve.symm.trans hobserve')
  obtain ⟨-, rfl⟩ := TrustMap.checked_eq_ok.mp hdecides.trusted
  obtain ⟨built, chart, hbuilt, -, -⟩ :=
    CrdbNodes.files_eq_ok.mp (synthesize_toCrdbNodes_eq_ok.mp hdecides.synthesized).2
  obtain ⟨c, rest, hc, -, -⟩ := List.forall₂_cons_left_iff.mp hbuilt
  rw [hsecure] at hnames
  exact ⟨_, left, tree, o, p, c, rfl, hrekeyed, hnamed, hnames, hc,
    handOver_trustNames.2 hsecure hc hsecure rfl rfl⟩

end Handover
