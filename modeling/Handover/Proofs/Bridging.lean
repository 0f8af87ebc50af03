import Handover.Logging
import Handover.Proofs.Inventory

/-!
# What a bridge does to a store

A bridge puts texts into the data of one ConfigMap and leaves everything else as it was
(`ObjectStore.Bridged`). Which texts these are is settled by `Logging.bridgeSecret_eq_ok` and
`Logging.relocateKey_eq_ok`, and nothing later looks into a bridge again. Two things follow for
runs that come later: a store only grows, so no ConfigMap and no key of its data goes away
(`ObjectStore.GrowsTo`); and a bridge that has been built once finds nothing to do, because
putting the same texts twice makes the same data.
-/

namespace Handover

open Kubernetes

/-! ## Texts -/

/-- The data of the ConfigMap of a name. A ConfigMap that does not exist has none. -/
def ObjectStore.configData (store : ObjectStore) (ns name : String) : Labels :=
  ((store.configMap? ns name).bind (·.data)).getD .empty

theorem ObjectStore.configData_of_configMap? {store : ObjectStore} {ns name : String}
    {c : ConfigMap} (h : store.configMap? ns name = some c) :
    store.configData ns name = c.data.getD .empty := by
  rw [configData, h, Option.bind_some]

/-- The text of a Secret under a key; a plain text wins over bytes. -/
def Kubernetes.Secret.text? (secret : Secret) (key : String) : Option String :=
  (secret.stringData.bind (·.get? key)).or
    ((secret.data.bind (·.get? key)).bind Text.Base64.utf8?)

namespace Logging

/-- Bytes are read key by key, in whatever order. -/
theorem find?_payloadText {name : String} {entries : List (String × List UInt8)}
    {texts : List (String × String)}
    (h : List.Forall₂ (fun e t => payloadText name e = .ok t) entries texts) (key : String) :
    (texts.find? fun e => e.1 = key).map (·.2)
      = ((entries.find? fun e => e.1 = key).map (·.2)).bind Text.Base64.utf8? := by
  induction h with
  | nil => rfl
  | @cons entry text _ _ hentry _ ih =>
    obtain ⟨t, ht, hpair⟩ := Outcome.bind_eq_ok.mp hentry
    obtain rfl := Outcome.pure_eq_ok.mp hpair
    by_cases hkey : entry.1 = key
    · simp [hkey, Outcome.required_eq_ok.mp ht]
    · simpa [hkey] using ih

/-- The entries of a map that may be missing find what it finds. -/
theorem find?_entriesOf {α : Type} (m : Option (KeyMap String α)) (key : String) :
    ((((m.map (·.entries)).getD []).reverse.find? fun e => e.1 = key).map (·.2))
      = m.bind (·.get? key) := by
  cases m with
  | none => rfl
  | some m => exact m.find?_reverse_entries key

/-- The texts of a Secret are those under its keys. -/
theorem get?_payload {name : String} {secret : Secret} {texts : Labels}
    (h : payload name secret = .ok texts) (key : String) :
    texts.get? key = secret.text? key := by
  obtain ⟨entries, hentries, h⟩ := Outcome.bind_eq_ok.mp h
  obtain rfl := Outcome.pure_eq_ok.mp h
  have hbytes := find?_payloadText (List.rel_reverse (Outcome.mapM_eq_ok.mp hentries)) key
  rw [find?_entriesOf] at hbytes
  refine (KeyMap.get?_foldl_insert id _ _ _).trans ?_
  rw [KeyMap.get?_empty, Option.or_none, List.reverse_append, List.find?_append, Secret.text?,
    ← hbytes, ← find?_entriesOf secret.stringData]
  simp only [id, Option.map_or]

/-! ## Putting texts into data -/

/-- What is found in data after a payload was put into it. -/
theorem get?_addPayload (data texts : Labels) (key : String) :
    (addPayload data texts).get? key
      = ((texts.entries.reverse.find? fun e => renameKey e.1 = key).map (·.2)).or
        (data.get? key) :=
  KeyMap.get?_foldl_insert (fun e : String × String => (renameKey e.1, e.2)) texts.entries data key

/-- Putting a payload into data twice makes the same data, also where keys of the payload are
renamed to others of it. -/
theorem addPayload_addPayload (data texts : Labels) :
    addPayload (addPayload data texts) texts = addPayload data texts := by
  refine KeyMap.ext_get? fun key => ?_
  rw [get?_addPayload (addPayload data texts), get?_addPayload, ← Option.or_assoc, Option.or_self]

/-- A key of data is still there after a payload was put into it. -/
theorem isSome_get?_addPayload {data texts : Labels} {key : String}
    (h : (data.get? key).isSome) : ((addPayload data texts).get? key).isSome := by
  rw [get?_addPayload, Option.isSome_or, h, Bool.or_true]

theorem renameKey_eq_operatorLogKey {key : String} :
    renameKey key = Names.operatorLogKey ↔
      key = Names.operatorLogKey ∨ key = Names.legacyLogKey := by
  rw [renameKey]
  split
  · rename_i hkey
    simp [hkey]
  · rename_i hkey
    simp [hkey]

/-- Of two keys the higher one is found first where keys go down. -/
theorem find?_either {low high : String} (hlt : compare low high = .lt) :
    ∀ {es : List (String × String)}, es.Pairwise (fun a b => compare b.1 a.1 = .lt) →
      es.find? (fun e => e.1 = high ∨ e.1 = low)
        = (es.find? fun e => e.1 = high).or (es.find? fun e => e.1 = low)
  | [], _ => rfl
  | e :: es, h => by
    obtain ⟨hbelow, h⟩ := List.pairwise_cons.mp h
    have ih := find?_either hlt h
    by_cases hhigh : e.1 = high
    · simp [hhigh]
    · by_cases hlow : e.1 = low
      · -- what follows lies below `low`, so `high` is not there
        have hnone : es.find? (fun e => e.1 = high) = none := by
          rw [List.find?_eq_none]
          intro e' he'
          have hbelow' := hbelow e' he'
          rw [hlow] at hbelow'
          have hlt' := Std.TransCmp.lt_trans hbelow' hlt
          intro heq
          rw [decide_eq_true_eq] at heq
          exact KeyMap.compare_self_ne_lt _ (heq ▸ hlt')
        rw [List.find?_cons_of_pos (by simp [hlow]), List.find?_cons_of_neg (by simpa using hhigh),
          List.find?_cons_of_pos (by simpa using hlow), hnone, Option.none_or]
      · simpa [hhigh, hlow] using ih

/-- The configuration for the operator is the payload's own one for it, or else the one for a
StatefulSet, or else the one that was there. -/
theorem get?_addPayload_operatorLogKey (data texts : Labels) :
    (addPayload data texts).get? Names.operatorLogKey
      = ((texts.get? Names.operatorLogKey).or (texts.get? Names.legacyLogKey)).or
        (data.get? Names.operatorLogKey) := by
  have hlt : compare Names.legacyLogKey Names.operatorLogKey = .lt := by decide
  have hdown := List.pairwise_reverse.mpr texts.ascending
  rw [get?_addPayload]
  simp only [renameKey_eq_operatorLogKey]
  rw [find?_either hlt hdown, Option.map_or, KeyMap.find?_reverse_entries,
    KeyMap.find?_reverse_entries]

end Logging

/-! ## One ConfigMap with other data -/

/-- What of a store no run writes to. -/
def ObjectStore.readOnly (store : ObjectStore) : ObjectStore :=
  { store with configMaps := .empty, rbac := [] }

theorem ObjectStore.secret?_of_readOnly {store store' : ObjectStore} {ns name : String}
    (h : store'.readOnly = store.readOnly) : store'.secret? ns name = store.secret? ns name := by
  show store'.readOnly.secret? ns name = store.readOnly.secret? ns name
  rw [h]

/-- One ConfigMap of a store has been given data, and all other objects are as before. -/
structure ObjectStore.Bridged (store store' : ObjectStore) (ns name : String) (data : Labels) :
    Prop where
  readOnly : store'.readOnly = store.readOnly
  given : ∃ c, store'.configMap? ns name = some c ∧ c.data = some data
  others : ∀ {ns' name' : String}, ¬(ns' = ns ∧ name' = name) →
    store'.configMap? ns' name' = store.configMap? ns' name'

theorem ObjectStore.configMap?_applyConfigMap (store : ObjectStore) (c : ConfigMap)
    (ns ns' name' : String) :
    (store.applyConfigMap ns c).configMap? ns' name'
      = if ns' = ns ∧ name' = c.metadata.nameText then
          some { c with metadata := { c.metadata with ns := some ns } }
        else store.configMap? ns' name' := by
  refine (KeyMap.get?_insert _ _ _ _).trans ?_
  have hkey : ObjectKey.of { c with metadata := { c.metadata with ns := some ns } }
      = ⟨ns, c.metadata.nameText⟩ := rfl
  rw [hkey]
  simp only [ObjectKey.mk.injEq]
  rfl

theorem ObjectStore.Bridged.configData {store store' : ObjectStore} {ns name : String}
    {data : Labels} (h : store.Bridged store' ns name data) (ns' name' : String) :
    store'.configData ns' name'
      = if ns' = ns ∧ name' = name then data else store.configData ns' name' := by
  split
  · rename_i hkey
    obtain ⟨c, hc, hdata⟩ := h.given
    rw [hkey.1, hkey.2, ObjectStore.configData, hc, Option.bind_some, hdata, Option.getD_some]
  · rename_i hkey
    rw [ObjectStore.configData, h.others hkey]
    rfl

/-- Only objects count, and not what has been recorded. -/
theorem ObjectStore.Bridged.congr {store left store' : ObjectStore} {ns name : String}
    {data : Labels} (h : store.Bridged left ns name data)
    (hreadOnly : store'.readOnly = left.readOnly) (hmaps : store'.configMaps = left.configMaps) :
    store.Bridged store' ns name data := by
  have hget (ns' name' : String) : store'.configMap? ns' name' = left.configMap? ns' name' := by
    rw [ObjectStore.configMap?, hmaps]
    rfl
  refine ⟨hreadOnly.trans h.readOnly, ?_, fun hkey => (hget _ _).trans (h.others hkey)⟩
  rw [hget]
  exact h.given

namespace Bridge

/-- The bridge that gives data to a ConfigMap, unless it holds just that. -/
def giving (store : ObjectStore) (ns name : String) (data : Labels) (labels : Option Labels) :
    Bridge :=
  if (store.configMap? ns name).bind (·.data) = some data then { outcome := .unchanged }
  else { outcome := .applied, write := some (Logging.configMap ns name data labels) }

variable {store : ObjectStore} {ns name : String} {data : Labels} {labels : Option Labels}

theorem bridged_giving :
    store.Bridged ((giving store ns name data labels).run store ns) ns name data := by
  rw [giving]
  split
  · rename_i hdata
    exact ⟨rfl, Option.bind_eq_some_iff.mp hdata, fun _ => rfl⟩
  · refine ⟨rfl, ⟨Logging.configMap ns name data labels, ?_, rfl⟩, fun hkey => ?_⟩
    · exact (ObjectStore.configMap?_applyConfigMap ..).trans (if_pos ⟨rfl, rfl⟩)
    · exact (ObjectStore.configMap?_applyConfigMap ..).trans (if_neg hkey)

/-- A bridge that has been built has nothing more to do. -/
theorem giving_of_bridged {store' : ObjectStore} (h : store.Bridged store' ns name data) :
    giving store' ns name data labels = { outcome := .unchanged } := by
  obtain ⟨c, hc, hdata⟩ := h.given
  rw [giving, hc, Option.bind_some, if_pos hdata]

end Bridge

namespace Logging

variable {store : ObjectStore} {ns name : String} {b : Bridge}

/-- From a Secret, its texts are put into the data that the ConfigMap of the same name has. -/
theorem bridgeSecret_eq_ok :
    bridgeSecret store ns name = .ok b ↔
      ∃ secret texts, store.secret? ns name = some secret ∧ payload name secret = .ok texts
        ∧ b = .giving store ns name (addPayload (store.configData ns name) texts)
          (((store.configMap? ns name).bind (·.metadata.labels)).or secret.metadata.labels) := by
  simp only [bridgeSecret, Outcome.bind_eq_ok, Outcome.required_eq_ok]
  constructor
  · rintro ⟨secret, hsecret, texts, htexts, h⟩
    rw [← apply_ite pure] at h
    exact ⟨secret, texts, hsecret, htexts, (Outcome.pure_eq_ok.mp h).symm⟩
  · rintro ⟨secret, texts, hsecret, htexts, rfl⟩
    refine ⟨secret, hsecret, texts, htexts, ?_⟩
    rw [← apply_ite pure]
    rfl

/-- Within a ConfigMap, the configuration for the operator is put under the key of a StatefulSet
as well. -/
theorem relocateKey_eq_ok :
    relocateKey store ns name = .ok b ↔
      ∃ c text, store.configMap? ns name = some c
        ∧ (store.configData ns name).get? Names.operatorLogKey = some text
        ∧ b = .giving store ns name
          ((store.configData ns name).insert Names.legacyLogKey text) c.metadata.labels := by
  simp only [relocateKey, Outcome.bind_eq_ok, Outcome.required_eq_ok]
  -- data with a key is there, so it holds the text already when putting the text changes nothing
  have hgiving {c : ConfigMap} {text : String} (hc : store.configMap? ns name = some c)
      (htext : (c.data.getD .empty).get? Names.operatorLogKey = some text) :
      Bridge.giving store ns name ((c.data.getD .empty).insert Names.legacyLogKey text)
          c.metadata.labels
        = if (c.data.getD .empty).get? Names.legacyLogKey = some text then
            { outcome := .unchanged }
          else {
            outcome := .applied
            write := some (configMap ns name
              ((c.data.getD .empty).insert Names.legacyLogKey text) c.metadata.labels) } := by
    rw [Bridge.giving, hc, Option.bind_some]
    cases hdata : c.data with
    | none =>
      rw [hdata] at htext
      cases htext
    | some data =>
      refine if_congr ?_ rfl rfl
      rw [Option.getD_some, Option.some_inj, eq_comm, KeyMap.insert_eq_self_iff]
  constructor
  · rintro ⟨c, hc, text, htext, h⟩
    rw [← apply_ite pure, ← hgiving hc htext] at h
    refine ⟨c, text, hc, ?_, ?_⟩
    · rw [ObjectStore.configData_of_configMap? hc, htext]
    · rw [ObjectStore.configData_of_configMap? hc, Outcome.pure_eq_ok.mp h]
  · rintro ⟨c, text, hc, htext, rfl⟩
    rw [ObjectStore.configData_of_configMap? hc] at htext ⊢
    refine ⟨c, hc, text, htext, ?_⟩
    rw [← apply_ite pure, ← hgiving hc htext]
    rfl

end Logging

/-! ## Stores that grow -/

/-- A store in which every ConfigMap is still there, with every key of its data. Texts may have
changed; what no run writes to has not. -/
structure ObjectStore.GrowsTo (store store' : ObjectStore) : Prop where
  readOnly : store'.readOnly = store.readOnly
  configMap : ∀ {ns name : String}, (store.configMap? ns name).isSome →
    (store'.configMap? ns name).isSome
  key : ∀ {ns name key : String}, ((store.configData ns name).get? key).isSome →
    ((store'.configData ns name).get? key).isSome

namespace ObjectStore.GrowsTo

variable {store store' store'' : ObjectStore}

theorem refl (store : ObjectStore) : store.GrowsTo store := ⟨rfl, id, id⟩

theorem trans (h : store.GrowsTo store') (h' : store'.GrowsTo store'') : store.GrowsTo store'' where
  readOnly := h'.readOnly.trans h.readOnly
  configMap hc := h'.configMap (h.configMap hc)
  key hk := h'.key (h.key hk)

/-- Recorded permissions are no objects. -/
theorem recordRbac (h : store.GrowsTo store') (ns : String) (names : List String) :
    store.GrowsTo (store'.recordRbac ns names) :=
  ⟨h.readOnly, h.configMap, h.key⟩

end ObjectStore.GrowsTo

/-- A store grows when the data of a ConfigMap does. -/
theorem ObjectStore.Bridged.growsTo {store store' : ObjectStore} {ns name : String}
    {data : Labels} (h : store.Bridged store' ns name data)
    (hkeys : ∀ {key : String}, ((store.configData ns name).get? key).isSome →
      (data.get? key).isSome) : store.GrowsTo store' where
  readOnly := h.readOnly
  configMap {ns' name'} hc := by
    by_cases hkey : ns' = ns ∧ name' = name
    · obtain ⟨c, hc, -⟩ := h.given
      rw [hkey.1, hkey.2, hc, Option.isSome_some]
    · rw [h.others hkey]
      exact hc
  key {ns' name' key} hk := by
    rw [h.configData]
    split
    · rename_i heq
      rw [heq.1, heq.2] at hk
      exact hkeys hk
    · exact hk

namespace Logging

variable {store store' : ObjectStore} {direction : Direction} {o : ClusterObservation} {b : Bridge}

/-- No bridge takes anything away. -/
theorem growsTo_of_bridge (h : bridge store direction o = .ok b) :
    store.GrowsTo (b.run store o.ns) := by
  unfold bridge at h
  split at h
  · obtain ⟨secret, texts, -, -, rfl⟩ := bridgeSecret_eq_ok.mp h
    exact Bridge.bridged_giving.growsTo isSome_get?_addPayload
  · obtain ⟨c, text, -, -, rfl⟩ := relocateKey_eq_ok.mp h
    refine Bridge.bridged_giving.growsTo fun {key} hkey => ?_
    rw [KeyMap.get?_insert]
    split
    · rfl
    · exact hkey
  · obtain rfl := Except.ok.inj h
    exact .refl store

/-- What a bridge needs is still there in a store that has grown. -/
theorem exists_bridge_of_growsTo (hgrows : store.GrowsTo store')
    (h : bridge store direction o = .ok b) : ∃ b', bridge store' direction o = .ok b' := by
  unfold bridge at h ⊢
  split at h
  · obtain ⟨secret, texts, hsecret, htexts, -⟩ := bridgeSecret_eq_ok.mp h
    exact ⟨_, bridgeSecret_eq_ok.mpr
      ⟨secret, texts, (ObjectStore.secret?_of_readOnly hgrows.readOnly).trans hsecret, htexts, rfl⟩⟩
  · obtain ⟨c, text, hc, htext, -⟩ := relocateKey_eq_ok.mp h
    obtain ⟨c', hc'⟩ := Option.isSome_iff_exists.mp
      (hgrows.configMap (by rw [hc, Option.isSome_some]))
    obtain ⟨text', htext'⟩ :=
      Option.isSome_iff_exists.mp (hgrows.key (by rw [htext, Option.isSome_some]))
    exact ⟨_, relocateKey_eq_ok.mpr ⟨c', text', hc', htext', rfl⟩⟩
  · exact ⟨_, h⟩

/-- From a Secret, nothing is bridged twice. -/
theorem bridgeSecret_of_bridged {ns name : String} {secret : Secret} {texts : Labels}
    (hsecret : store.secret? ns name = some secret) (htexts : payload name secret = .ok texts)
    (h : store.Bridged store' ns name (addPayload (store.configData ns name) texts)) :
    bridgeSecret store' ns name = .ok { outcome := .unchanged } := by
  refine bridgeSecret_eq_ok.mpr ⟨secret, texts, ?_, htexts, ?_⟩
  · rw [ObjectStore.secret?_of_readOnly h.readOnly, hsecret]
  · rw [h.configData, if_pos ⟨rfl, rfl⟩, addPayload_addPayload, Bridge.giving_of_bridged h]

/-- Within a ConfigMap, nothing is bridged twice. -/
theorem relocateKey_of_bridged {ns name text : String}
    (htext : (store.configData ns name).get? Names.operatorLogKey = some text)
    (h : store.Bridged store' ns name
      ((store.configData ns name).insert Names.legacyLogKey text)) :
    relocateKey store' ns name = .ok { outcome := .unchanged } := by
  obtain ⟨c, hc, -⟩ := h.given
  have hne : Names.operatorLogKey ≠ Names.legacyLogKey := by decide
  refine relocateKey_eq_ok.mpr ⟨c, text, hc, ?_, ?_⟩
  · rw [h.configData, if_pos ⟨rfl, rfl⟩, KeyMap.get?_insert_of_ne hne, htext]
  · have hthere := KeyMap.get?_insert_self (store.configData ns name) Names.legacyLogKey text
    rw [h.configData, if_pos ⟨rfl, rfl⟩, KeyMap.insert_eq_self_iff.mpr hthere,
      Bridge.giving_of_bridged h]

/-- A bridge that has been built is not built again, whatever permissions are recorded behind it. -/
theorem bridge_again (h : bridge store direction o = .ok b)
    (hreadOnly : store'.readOnly = (b.run store o.ns).readOnly)
    (hmaps : store'.configMaps = (b.run store o.ns).configMaps) :
    ∃ outcome, bridge store' direction o = .ok { outcome }
      ∧ (outcome = .unchanged ∨ outcome = .skipped) := by
  unfold bridge at h ⊢
  split at h
  · obtain ⟨secret, texts, hsecret, htexts, rfl⟩ := bridgeSecret_eq_ok.mp h
    have hbridged := Bridge.bridged_giving.congr hreadOnly hmaps
    exact ⟨.unchanged, bridgeSecret_of_bridged hsecret htexts hbridged, .inl rfl⟩
  · obtain ⟨c, text, -, htext, rfl⟩ := relocateKey_eq_ok.mp h
    have hbridged := Bridge.bridged_giving.congr hreadOnly hmaps
    exact ⟨.unchanged, relocateKey_of_bridged htext hbridged, .inl rfl⟩
  · exact ⟨.skipped, rfl, .inr rfl⟩

end Logging

/-! ## A small cluster with logging -/

namespace SmallCluster

/-- The volume with the configuration of logging. -/
def logVolume (ref : LoggingRef) : Volume :=
  match ref with
  | .secret name => { name := Names.logVolume, secret := some { secretName := some name } }
  | .configMap name => { name := Names.logVolume, configMap := some { name } }

/-- A pod of the small cluster that mounts the configuration of logging. -/
def loggingPod (ref : LoggingRef) (name : String) : Pod :=
  let pod := pod ["start", "--insecure"] Names.claimName name
  { pod with spec := pod.spec.map fun spec =>
      { spec with volumes := spec.volumes.map (· ++ [logVolume ref]) } }

/-- A Secret or ConfigMap of the cluster is named `log`. -/
def logMetadata : ObjectMeta := { name := some "log", ns := some "n" }

/-- The small cluster, whose pods mount the configuration of logging. -/
def loggingStore (ref : LoggingRef) (secretTexts : List (String × String))
    (mapTexts : List (String × String)) : ObjectStore :=
  { store ["start", "--insecure"] Names.claimName with
    pods := .ofList (podNames.map (loggingPod ref))
    secrets := .ofList [{ metadata := logMetadata, stringData := some (.ofList secretTexts) }]
    configMaps := .ofList [{ metadata := logMetadata, data := some (.ofList mapTexts) }] }

/-- Handing the cluster over to the operator. -/
def handedOver (outputDir : String) : Request where
  source := .statefulSet
  cluster := "c-1"
  namespaceName := "n"
  outputDir := outputDir
  target := { region := some "r" }

end SmallCluster

end Handover
