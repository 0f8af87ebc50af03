import Handover.Proofs.ChartValues
import Handover.Proofs.CrdbNodes
import Handover.Proofs.OperatorCluster
import Handover.Proofs.Prepared

/-!
# Which configuration of logging the target reads

Manifests name an object by its name alone, and the target looks into the ConfigMap of that name
under a key of its own. A bridge puts the text there that the source runs with, on the way to a
StatefulSet always, and from a Secret unless the Secret has another text under the operator's key.
From a ConfigMap that the pods of a StatefulSet mount there is no bridge at all, so the operator
finds the text only where it happens to stand under both keys (`handOver_logging`).
-/

namespace Handover

open Kubernetes Manifest Yaml

/-! ## What manifests name -/

/-- Where manifests name the configuration of logging: in the specification of a CrdbNode, or in
the values of a StatefulSet. -/
def Direction.loggingPath : Direction → List String
  | .toCrdbNodes => ["spec", "loggingConfigMapName"]
  | .toStatefulSet => ["conf", "log", "existingConfigMap"]

/-- Some document of the manifests names an object as the configuration of logging. -/
def Direction.NamesLogging (direction : Direction) (files : List ManifestFile) (name : String) :
    Prop :=
  ∃ file ∈ files, ∃ document ∈ file.documents,
    document.path? direction.loggingPath = some (.text name)

instance (direction : Direction) (files : List ManifestFile) (name : String) :
    Decidable (direction.NamesLogging files name) :=
  inferInstanceAs (Decidable (∃ file ∈ files, ∃ document ∈ file.documents,
    document.path? direction.loggingPath = some (.text name)))

section Named

variable {o : ClusterObservation} {trust : TrustMap} {target : Target} {files : List ManifestFile}
  {name : String}

theorem field?_crdbNode_spec (c : CrdbNode) :
    (CrdbNode.codec.write c).field? "spec" = some (CrdbNodeSpec.codec.write c.spec) := by
  rw [CrdbNode.codec, Codec.record, lookup_record]
  simp [Fields.find?_one]

/-- A CrdbNode says in its specification what its field holds. -/
theorem path?_crdbNode (c : CrdbNode) :
    (CrdbNode.codec.write c).path? ["spec", "loggingConfigMapName"]
      = c.spec.loggingConfigMapName.map .text := by
  have hname : (CrdbNodeSpec.codec.write c.spec).field? "loggingConfigMapName"
      = c.spec.loggingConfigMapName.map .text := by
    rw [CrdbNodeSpec.codec, Codec.record, lookup_record]
    simp [Fields.find?_opt, Fields.find?_many, Codec.text, Function.comp_def]
  rw [Value.path?, field?_crdbNode_spec, Option.bind_some, Value.path?, hname]
  cases c.spec.loggingConfigMapName <;> rfl

/-- The values for the operator have no specification. -/
theorem path?_operatorValues {built : List CrdbNode} {chart : Value}
    (h : CrdbNodes.values o built trust target = .ok chart) (keys : List String) :
    chart.path? ("spec" :: keys) = none := by
  obtain ⟨first, -, h⟩ := Outcome.bind_eq_ok.mp h
  obtain ⟨code, -, h⟩ := Outcome.bind_eq_ok.mp h
  obtain rfl := Outcome.pure_eq_ok.mp h
  rw [Value.path?_map, Entries.lookup_putEntries, if_neg (by decide), lookup_nil]
  rfl

/-- What CrdbNodes name is what was observed. -/
theorem logging_of_namesLogging_crdbNodes (h : CrdbNodes.files o trust target = .ok files)
    (hnames : Direction.NamesLogging .toCrdbNodes files name) :
    ∃ ref, o.logging = some ref ∧ ref.name = name := by
  obtain ⟨built, chart, hbuilt, hchart, rfl⟩ := CrdbNodes.files_eq_ok.mp h
  obtain ⟨file, hfile, document, hdocument, hpath⟩ := hnames
  rcases List.mem_append.mp hfile with hfile | hfile
  · obtain ⟨⟨c, index⟩, hc, rfl⟩ := List.mem_map.mp hfile
    obtain rfl := List.mem_singleton.mp hdocument
    obtain ⟨n, -, hnode⟩ := getElem?_of_forall₂ hbuilt (List.mem_zipIdx_iff_getElem?.mp hc)
    change (CrdbNode.codec.write c).path? ["spec", "loggingConfigMapName"] = _ at hpath
    rw [path?_crdbNode, (CrdbNodes.isBuilt hnode).logging, Option.map_map] at hpath
    obtain ⟨ref, href, heq⟩ := Option.map_eq_some_iff.mp hpath
    exact ⟨ref, href, Value.text.inj heq⟩
  · obtain rfl := List.mem_singleton.mp hfile
    rw [List.mem_singleton.mp hdocument, Direction.loggingPath,
      path?_operatorValues hchart] at hpath
    cases hpath

/-- The values of a StatefulSet name what their section on logging names. -/
theorem path?_legacyValues {chart : Value} (h : LegacyChart.values o trust target = .ok chart)
    (hname : chart.path? ["conf", "log", "existingConfigMap"] = some (.text name)) :
    ∃ ref, o.logging = some ref ∧ ref.name = name := by
  obtain ⟨-, -, -, -, hlog, -⟩ := LegacyChart.values_sections h
  rw [show ["conf", "log", "existingConfigMap"] = ["conf", "log"] ++ ["existingConfigMap"] from rfl,
    Value.path?_append, hlog, Entries.asSection_bind_path?] at hname
  cases hlogging : o.logging with
  | none =>
    rw [hlogging] at hname
    cases hname
  | some ref =>
    rw [hlogging, LegacyChart.logValues, Entries.putText, Entries.lookup_put] at hname
    split at hname
    · exact ⟨ref, rfl, Value.text.inj (Option.some.inj hname)⟩
    · rw [Entries.putBool, Entries.lookup_put_of_ne _ _ _ _ (by decide)] at hname
      cases hname

/-- An object has no configuration of its own. -/
theorem path?_conf_record {fields : Fields} (h : fields.find? (fun f => f.1 = "conf") = none)
    (keys : List String) : (Value.record fields).path? ("conf" :: keys) = none := by
  rw [Value.path?, lookup_record, h]
  rfl

/-- What the values of a StatefulSet name is what was observed. -/
theorem logging_of_namesLogging_legacyChart (h : LegacyChart.files o trust target = .ok files)
    (hnames : Direction.NamesLogging .toStatefulSet files name) :
    ∃ ref, o.logging = some ref ∧ ref.name = name := by
  obtain ⟨-, -, chart, hchart, rfl⟩ := LegacyChart.files_eq_ok.mp h
  obtain ⟨file, hfile, document, hdocument, hpath⟩ := hnames
  -- only the values have a section of that name
  have hothers {fields : Fields} (hfields : fields.find? (fun f => f.1 = "conf") = none)
      (hdocument : document = Value.record fields) : False := by
    rw [hdocument, Direction.loggingPath, path?_conf_record hfields] at hpath
    cases hpath
  rcases List.mem_append.mp hfile with hfile | hfile
  · obtain ⟨n, -, rfl⟩ := List.mem_map.mp hfile
    obtain ⟨claim, -, rfl⟩ := List.mem_map.mp hdocument
    exact (hothers (by simp [Fields.find?_one, Fields.find?_opt]) rfl).elim
  simp only [List.mem_cons, List.not_mem_nil, or_false] at hfile
  rcases hfile with rfl | rfl | rfl
  · rw [List.mem_singleton.mp hdocument] at hpath
    exact path?_legacyValues hchart hpath
  · obtain rfl := List.mem_singleton.mp hdocument
    exact (hothers (by simp [Fields.find?_one, Fields.find?_opt]) rfl).elim
  · simp only [RbacBundle.file, RbacBundle.documents, List.mem_cons, List.not_mem_nil,
      or_false] at hdocument
    rcases hdocument with h | h | h | h | h <;> exact (hothers (by simp) h).elim

end Named

/-! ## Where the source logs -/

/-- The object with the configuration of logging that a running cluster uses: the one that its
first pod mounts, or the one that its first CrdbNode names. -/
def ObjectStore.LogsBy (store : ObjectStore) (source : Source) (ns cluster : String)
    (ref : LoggingRef) : Prop :=
  match source with
  | .statefulSet => ∃ pod, store.pod? ns (Names.nodeName cluster 0) = some pod
    ∧ pod.logging? = some ref
  | .crdbNode => ∃ c ∈ store.crdbNodesOf ns cluster, Names.ordinalOf? cluster c.name = some 0
    ∧ c.spec.loggingConfigMapName.map .configMap = some ref

/-- The text that a running cluster finds in that object under the key of its scheme. -/
def ObjectStore.loggingText? (store : ObjectStore) (source : Source) (ns : String)
    (ref : LoggingRef) : Option String :=
  match source, ref with
  | .statefulSet, .secret name => (store.secret? ns name).bind (·.text? Names.legacyLogKey)
  | .statefulSet, .configMap name => (store.configData ns name).get? Names.legacyLogKey
  | .crdbNode, ref => (store.configData ns ref.name).get? Names.operatorLogKey

/-- The key under which the target looks. -/
def Direction.logKey : Direction → String
  | .toCrdbNodes => Names.operatorLogKey
  | .toStatefulSet => Names.legacyLogKey

/-- What it takes for the text to get to where the target looks. On the way to a StatefulSet,
nothing; from a Secret, that it has no other text under the operator's key; and from a ConfigMap
under a StatefulSet, that the text stands under the operator's key already. -/
def ObjectStore.HandsLogging (store : ObjectStore) (source : Source) (ns : String)
    (ref : LoggingRef) (text : String) : Prop :=
  match source, ref with
  | .statefulSet, .secret name => ∀ own,
    (store.secret? ns name).bind (·.text? Names.operatorLogKey) = some own → own = text
  | .statefulSet, .configMap name =>
    (store.configData ns name).get? Names.operatorLogKey = some text
  | .crdbNode, _ => True

section Observed

variable {store : ObjectStore} {source : Source} {ns cluster : String} {inventory : Inventory}
  {o : ClusterObservation}

theorem ns_of_observe (hread : Inventory.read store source ns cluster = .ok inventory)
    (hobserve : observe inventory = .ok o) : o.ns = ns := by
  obtain ⟨pod, pods, d, first, others, -, -, -, rfl⟩ := observe_eq_ok.mp hobserve
  exact (Inventory.isRead hread).ns_eq

/-- The configuration of logging is observed where the cluster uses it. -/
theorem logsBy_of_observe (hread : Inventory.read store source ns cluster = .ok inventory)
    (hobserve : observe inventory = .ok o) {ref : LoggingRef} (hlogging : o.logging = some ref) :
    store.LogsBy source ns cluster ref := by
  cases source with
  | statefulSet =>
    have hinv := Inventory.isRead hread
    obtain ⟨s, hcontroller, -⟩ := hinv.statefulSet
    obtain ⟨pod, pods, d, first, others, hpods, hd, -, rfl⟩ := observe_eq_ok.mp hobserve
    rw [declared, hcontroller] at hd
    obtain ⟨spec, -, hd⟩ := Outcome.bind_eq_ok.mp hd
    obtain ⟨podSpec, -, hd⟩ := Outcome.bind_eq_ok.mp hd
    obtain ⟨container, -, hd⟩ := Outcome.bind_eq_ok.mp hd
    obtain rfl := Outcome.pure_eq_ok.mp hd
    have hfirst : inventory.pods[0]? = some pod := by
      rw [hpods]
      rfl
    obtain ⟨_, hpod⟩ := hinv.pod hfirst
    exact ⟨pod, (Inventory.readPod_eq_ok.mp hpod).1, hlogging⟩
  | crdbNode =>
    obtain ⟨nodes, -, hdeclared⟩ := declaredBy_of_observe hread hobserve
    obtain ⟨c, hfirst, -, hnamed⟩ := hdeclared.first
    obtain ⟨hmem, hordinal⟩ := hdeclared.listed hfirst
    exact ⟨c, hmem, hordinal, hnamed.symm.trans hlogging⟩

end Observed

/-! ## What a run hands over -/

/-- From a Secret the text gets across unless the Secret has another one for the operator. -/
theorem Logging.bridgeSecret_hands {store : ObjectStore} {ns name text : String} {b : Bridge}
    (hbridge : bridgeSecret store ns name = .ok b)
    (htext : store.loggingText? .statefulSet ns (.secret name) = some text) :
    ((b.run store ns).configData ns name).get? Names.operatorLogKey = some text ↔
      store.HandsLogging .statefulSet ns (.secret name) text := by
  obtain ⟨secret, texts, hsecret, htexts, rfl⟩ := bridgeSecret_eq_ok.mp hbridge
  rw [ObjectStore.loggingText?, hsecret, Option.bind_some] at htext
  rw [Bridge.bridged_giving.configData, if_pos ⟨rfl, rfl⟩, get?_addPayload_operatorLogKey,
    get?_payload htexts, get?_payload htexts, htext, ObjectStore.HandsLogging, hsecret,
    Option.bind_some]
  cases secret.text? Names.operatorLogKey with
  | none => exact ⟨fun _ => nofun, fun _ => rfl⟩
  | some own =>
    constructor
    · rintro hown own' ⟨⟩
      exact Option.some.inj hown
    · intro hown
      rw [hown own rfl]
      rfl

/-- Within a ConfigMap the text is put under the key of a StatefulSet. -/
theorem Logging.relocateKey_hands {store : ObjectStore} {ns name text : String} {b : Bridge}
    (hbridge : relocateKey store ns name = .ok b)
    (htext : (store.configData ns name).get? Names.operatorLogKey = some text) :
    ((b.run store ns).configData ns name).get? Names.legacyLogKey = some text := by
  obtain ⟨c, text', -, htext', rfl⟩ := relocateKey_eq_ok.mp hbridge
  obtain rfl := Option.some.inj (htext'.symm.trans htext)
  rw [Bridge.bridged_giving.configData, if_pos ⟨rfl, rfl⟩, KeyMap.get?_insert_self]

/-- Once the bridge is built, the object that manifests name holds what the cluster logs by when the
object of the source allows for it. -/
theorem Logging.bridge_hands {store : ObjectStore} {source : Source} {ns cluster name : String}
    {inventory : Inventory} {o : ClusterObservation} {trust : TrustMap} {target : Target}
    {files : List ManifestFile} {b : Bridge}
    (hread : Inventory.read store source ns cluster = .ok inventory)
    (hobserve : observe inventory = .ok o)
    (hfiles : synthesize (.ofSource source) o trust target = .ok files)
    (hbridge : bridge store (.ofSource source) o = .ok b)
    (hnames : (Direction.ofSource source).NamesLogging files name) :
    ∃ ref, store.LogsBy source ns cluster ref ∧ ref.name = name
      ∧ (source = .crdbNode → ∃ text, store.loggingText? source ns ref = some text)
      ∧ ∀ text, store.loggingText? source ns ref = some text →
        (((b.run store ns).configData ns name).get? (Direction.ofSource source).logKey = some text ↔
          store.HandsLogging source ns ref text) := by
  have hns := ns_of_observe hread hobserve
  cases source with
  | statefulSet =>
    obtain ⟨-, hfiles⟩ := synthesize_toCrdbNodes_eq_ok.mp hfiles
    obtain ⟨ref, hlogging, rfl⟩ := logging_of_namesLogging_crdbNodes hfiles hnames
    refine ⟨ref, logsBy_of_observe hread hobserve hlogging, rfl, fun hother => ?_,
      fun text htext => ?_⟩
    · cases hother
    cases ref with
    | secret name =>
      simp only [Direction.ofSource, bridge, hlogging, hns] at hbridge
      exact bridgeSecret_hands hbridge htext
    | configMap name =>
      -- nothing is bridged
      simp only [Direction.ofSource, bridge, hlogging] at hbridge
      obtain rfl := Except.ok.inj hbridge
      exact Iff.rfl
  | crdbNode =>
    obtain ⟨-, hfiles⟩ := synthesize_toStatefulSet_eq_ok.mp hfiles
    obtain ⟨ref, hlogging, rfl⟩ := logging_of_namesLogging_legacyChart hfiles hnames
    obtain ⟨c, hlisted, hordinal, hname⟩ := logsBy_of_observe hread hobserve hlogging
    obtain ⟨name, hnamed, rfl⟩ := Option.map_eq_some_iff.mp hname
    simp only [Direction.ofSource, bridge, hlogging, hns] at hbridge
    obtain ⟨-, text, -, htext, -⟩ := relocateKey_eq_ok.mp hbridge
    exact ⟨.configMap name, ⟨c, hlisted, hordinal, hname⟩, rfl, fun _ => ⟨text, htext⟩,
      fun text htext => ⟨fun _ => trivial, fun _ => relocateKey_hands hbridge htext⟩⟩

/-- After a run the ConfigMap that the manifests name holds the text that the source runs with,
under the key of the target, exactly when the object of the source allows for it. On the way to a
StatefulSet it always does. -/
theorem handOver_logging {platform left : Platform} {r : Request} {report : Report}
    {tree tree' : FileTree}
    (hrun : (handOver platform r : StateM FileTree _).run tree = ((.ok report, left), tree')) :
    ∃ p, (prepare r).on platform = (.ok p, left)
      ∧ Emission.on (Emission.emit r.outputDir p.files) tree = (.ok report.files, tree')
      ∧ ∀ name, (Direction.ofSource r.source).NamesLogging p.files name →
        ∃ ref, platform.store.LogsBy r.source r.namespaceName r.cluster ref ∧ ref.name = name
          ∧ (r.source = .crdbNode → ∃ text,
            platform.store.loggingText? r.source r.namespaceName ref = some text)
          ∧ ∀ text, platform.store.loggingText? r.source r.namespaceName ref = some text →
            ((left.store.configData r.namespaceName name).get?
                (Direction.ofSource r.source).logKey = some text ↔
              platform.store.HandsLogging r.source r.namespaceName ref text) := by
  obtain ⟨o, trust, files, b, paths, hdecides, hemit, rfl, rfl⟩ := handOver_eq_ok.mp hrun
  refine ⟨_, prepare_eq_ok.mpr ⟨o, trust, files, b, hdecides, rfl, rfl⟩, hemit, ?_⟩
  intro name hnames
  obtain ⟨inventory, hread, hobserve⟩ := hdecides.observed
  have hmaps : (r.acted o trust b platform).store.configMaps
      = (b.run platform.store r.namespaceName).configMaps := by
    rw [← ns_of_observe hread hobserve]
    exact Request.storeBehind_configMaps o b platform.store
  have hdata : (r.acted o trust b platform).store.configData r.namespaceName name
      = (b.run platform.store r.namespaceName).configData r.namespaceName name := by
    rw [ObjectStore.configData, ObjectStore.configData, ObjectStore.configMap?, hmaps]
    rfl
  rw [hdata]
  exact Logging.bridge_hands hread hobserve hdecides.synthesized hdecides.bridged hnames

/-- The small cluster has its configuration of logging in a Secret. Handed over to the operator it
is in the ConfigMap that the CrdbNodes name. -/
theorem smallCluster_handsLogging :
    ∃ (report : Report) (left : Platform) (tree : FileTree) (p : Prepared),
      (handOver SmallCluster.secretLogging (SmallCluster.handedOver "o")
          : StateM FileTree _).run {} = ((.ok report, left), tree)
        ∧ Emission.on (Emission.emit "o" p.files) {} = (.ok report.files, tree)
        ∧ Direction.NamesLogging .toCrdbNodes p.files "log"
        ∧ (left.store.configData "n" "log").get? "logs.yaml" = some "a" := by
  have hsucceeds : ((handOver SmallCluster.secretLogging (SmallCluster.handedOver "o")
      : StateM FileTree _).run {}).1.1.isOk = true := by
    decide +kernel
  obtain ⟨report, left, tree, hrun⟩ := exists_report_of_isOk hsucceeds
  have hnamed : ((prepare (SmallCluster.handedOver "o")).on SmallCluster.secretLogging).1.map
      (fun p : Prepared => decide (Direction.NamesLogging .toCrdbNodes p.files "log"))
        = .ok true := by
    decide +kernel
  have hmounted : (SmallCluster.secretLogging.store.pod? "n" "c-1-0").bind (·.logging?)
      = some (.secret "log") := by
    decide +kernel
  have hnone : (SmallCluster.secretLogging.store.secret? "n" "log").bind
      (·.text? Names.operatorLogKey) = none := by
    decide +kernel
  obtain ⟨p, hprepared, hemit, hlogging⟩ := handOver_logging hrun
  rw [hprepared] at hnamed
  have hnames := of_decide_eq_true (Except.ok.inj hnamed)
  obtain ⟨ref, ⟨pod, hpod, href⟩, -, -, hkept⟩ := hlogging "log" hnames
  obtain rfl := Option.some.inj
    ((Option.bind_eq_some_iff.mpr ⟨pod, hpod, href⟩).symm.trans hmounted)
  refine ⟨report, left, tree, p, hrun, hemit, hnames, (hkept "a" (by decide +kernel)).mpr ?_⟩
  intro own hown
  cases hown.symm.trans hnone

/-- It is not so that the target always finds the configuration of logging that the source runs
with: the pods of a StatefulSet may mount a ConfigMap, and nothing is put under the operator's key
there. -/
theorem not_always_logging :
    ¬ ∀ (platform left : Platform) (r : Request) (report : Report) (tree tree' : FileTree)
        (p : Prepared) (name text : String) (ref : LoggingRef),
      (handOver platform r : StateM FileTree _).run tree = ((.ok report, left), tree') →
      (prepare r).on platform = (.ok p, left) →
      (Direction.ofSource r.source).NamesLogging p.files name →
      platform.store.LogsBy r.source r.namespaceName r.cluster ref → ref.name = name →
      platform.store.loggingText? r.source r.namespaceName ref = some text →
      (left.store.configData r.namespaceName name).get?
        (Direction.ofSource r.source).logKey = some text := by
  intro halways
  have hsucceeds : ((handOver SmallCluster.mapLogging (SmallCluster.handedOver "o")
      : StateM FileTree _).run {}).1.1.isOk = true := by
    decide +kernel
  obtain ⟨report, left, tree, hrun⟩ := exists_report_of_isOk hsucceeds
  have hnamed : ((prepare (SmallCluster.handedOver "o")).on SmallCluster.mapLogging).1.map
      (fun p : Prepared => decide (Direction.NamesLogging .toCrdbNodes p.files "log"))
        = .ok true := by
    decide +kernel
  have hmounted : (SmallCluster.mapLogging.store.pod? "n" "c-1-0").bind (·.logging?)
      = some (.configMap "log") := by
    decide +kernel
  have hnone : (((prepare (SmallCluster.handedOver "o")).on
      SmallCluster.mapLogging).2.store.configData "n" "log").get? Names.operatorLogKey = none := by
    decide +kernel
  obtain ⟨o, trust, files, b, paths, hdecides, -, -, rfl⟩ := handOver_eq_ok.mp hrun
  have hprepared := prepare_eq_ok.mpr ⟨o, trust, files, b, hdecides, rfl, rfl⟩
  rw [hprepared] at hnamed hnone
  obtain ⟨pod, hpod, href⟩ := Option.bind_eq_some_iff.mp hmounted
  cases hnone.symm.trans (halways _ _ _ _ _ _ _ "log" "a" (.configMap "log") hrun hprepared
    (of_decide_eq_true (Except.ok.inj hnamed)) ⟨pod, hpod, href⟩ rfl (by decide +kernel))

end Handover
