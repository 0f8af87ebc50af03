import Handover.Proofs.Bridging

/-!
# What a bridge leaves of a ConfigMap

A bridge writes texts under keys of a ConfigMap that may hold more than them. The data under all
other keys stays, and so do the labels of the object (`Bridge.Leaves`). But the object is made
anew from its name, its labels and its data, so that any other part of it is lost: a ConfigMap
with annotations, owners or binary data keeps them exactly when there was nothing to write
(`bridges_leave`, `not_always_alike`).
-/

namespace Handover

open Kubernetes

/-! ## Texts that come from a Secret -/

/-- What a Secret has for a key of a ConfigMap. Its configuration for a StatefulSet is there for
the operator, unless the Secret has one for the operator as well. -/
def Kubernetes.Secret.configText? (secret : Secret) (key : String) : Option String :=
  if key = Names.operatorLogKey then
    (secret.text? Names.operatorLogKey).or (secret.text? Names.legacyLogKey)
  else if key = Names.legacyLogKey then none
  else secret.text? key

namespace Logging

theorem renameKey_eq_iff_of_ne {k key : String} (hkey : key ≠ Names.operatorLogKey) :
    renameKey k = key ↔ k = key ∧ key ≠ Names.legacyLogKey := by
  rw [renameKey]
  split
  · rename_i hk
    subst hk
    constructor
    · intro h
      exact absurd h.symm hkey
    · rintro ⟨rfl, hne⟩
      exact absurd rfl hne
  · rename_i hk
    constructor
    · rintro rfl
      exact ⟨rfl, hk⟩
    · exact And.left

/-- A Secret has nothing for a key to which none of its keys is renamed. -/
theorem configText?_eq_none_iff {secret : Secret} {key : String} :
    secret.configText? key = none ↔ ∀ k, renameKey k = key → secret.text? k = none := by
  by_cases hkey : key = Names.operatorLogKey
  · subst hkey
    simp only [Secret.configText?, if_pos, Option.or_eq_none_iff, renameKey_eq_operatorLogKey,
      forall_eq_or_imp, forall_eq]
  · simp only [Secret.configText?, if_neg hkey, renameKey_eq_iff_of_ne hkey, and_imp, forall_eq]
    split
    · rename_i hlegacy
      simp [hlegacy]
    · rename_i hlegacy
      simp [hlegacy]

/-- Data into which the texts of a Secret were put. -/
theorem get?_addPayload_of_payload {name : String} {secret : Secret} {texts : Labels}
    (h : payload name secret = .ok texts) (data : Labels) (key : String) :
    (addPayload data texts).get? key = (secret.configText? key).or (data.get? key) := by
  by_cases hkey : key = Names.operatorLogKey
  · subst hkey
    rw [get?_addPayload_operatorLogKey, get?_payload h, get?_payload h, Secret.configText?,
      if_pos rfl]
  · rw [get?_addPayload, Secret.configText?, if_neg hkey]
    simp only [renameKey_eq_iff_of_ne hkey]
    split
    · rename_i hlegacy
      have hnone : (texts.entries.reverse.find? fun _ => false) = none :=
        List.find?_eq_none.mpr (by simp)
      simp only [hlegacy, ne_eq, not_true_eq_false, and_false, decide_false, hnone, Option.map_none,
        Option.none_or]
    · rename_i hlegacy
      simp only [ne_eq, hlegacy, not_false_eq_true, and_true, KeyMap.find?_reverse_entries,
        get?_payload h]

end Logging

/-! ## Parts of a ConfigMap -/

namespace Kubernetes.ConfigMap

/-- The text of a ConfigMap under a key. -/
def text? (c : ConfigMap) (key : String) : Option String := c.data.bind (·.get? key)

/-- A ConfigMap is another one in all but its data. -/
def AlikeButData (c' c : ConfigMap) : Prop := c' = { c with data := c'.data }

instance (c' c : ConfigMap) : Decidable (c'.AlikeButData c) :=
  inferInstanceAs (Decidable (c' = { c with data := c'.data }))

/-- A ConfigMap carries its name, its labels and its data, and nothing else. -/
def IsPlain (c : ConfigMap) (ns name : String) : Prop :=
  c = { data := c.data
        metadata := { name := some name, ns := some ns, labels := c.metadata.labels } }

instance (c : ConfigMap) (ns name : String) : Decidable (c.IsPlain ns name) :=
  inferInstanceAs (Decidable (c = _))

/-- A ConfigMap that is made anew is the one before when that one had no more than is made. -/
theorem configMap_alikeButData_iff {c : ConfigMap} {ns name : String} {data : Labels}
    {labels : Option Labels} :
    (Logging.configMap ns name data labels).AlikeButData c
      ↔ c.IsPlain ns name ∧ labels = c.metadata.labels := by
  obtain ⟨binaryData, data', immutable, metadata⟩ := c
  rw [AlikeButData, IsPlain, Logging.configMap]
  constructor
  · intro h
    obtain ⟨rfl, -, rfl, rfl⟩ := ConfigMap.mk.inj h
    exact ⟨rfl, rfl⟩
  · rintro ⟨h, hlabels⟩
    obtain ⟨rfl, -, rfl, hmetadata⟩ := ConfigMap.mk.inj h
    rw [hmetadata, hlabels]

end Kubernetes.ConfigMap

theorem ObjectStore.get?_configData {store : ObjectStore} {ns name : String} {c : ConfigMap}
    (h : store.configMap? ns name = some c) (key : String) :
    (store.configData ns name).get? key = c.text? key := by
  rw [ObjectStore.configData_of_configMap? h, ConfigMap.text?]
  cases c.data <;> rfl

/-! ## Before and after a bridge -/

/-- What a bridge leaves of the ConfigMap `c` of a name, where it writes some texts and has labels
at hand for an object without any. -/
structure Bridge.Leaves (b : Bridge) (ns name : String) (written : String → Option String)
    (spare : Option Labels) (c c' : ConfigMap) : Prop where
  /-- Under a key there is what was written, or else what was there before. -/
  text : ∀ key, c'.text? key = (written key).or (c.text? key)
  labels : c.metadata.labels.isSome ∨ spare = none → c'.metadata.labels = c.metadata.labels
  /-- Everything else is as before when nothing was written or there was nothing else. -/
  alike : c'.AlikeButData c ↔
    b.outcome = .unchanged
      ∨ (c.IsPlain ns name ∧ (c.metadata.labels.isSome ∨ spare = none))

theorem or_eq_left_iff {α : Type} {x y : Option α} : x.or y = x ↔ x.isSome ∨ y = none := by
  cases x with
  | none => simp
  | some a => simp

/-- A bridge that gives a ConfigMap its data and some texts gives it nothing else. -/
theorem Bridge.exists_leaves_giving {store : ObjectStore} {ns name : String} {c : ConfigMap}
    (hc : store.configMap? ns name = some c) (data : Labels) (spare : Option Labels)
    (written : String → Option String)
    (htext : ∀ key, data.get? key = (written key).or (c.text? key)) :
    ∃ c', ((giving store ns name data (c.metadata.labels.or spare)).run store ns).configMap? ns name
        = some c'
      ∧ (giving store ns name data (c.metadata.labels.or spare)).Leaves ns name written spare
          c c' := by
  rw [giving, hc, Option.bind_some]
  split
  · rename_i hdata
    refine ⟨c, hc, fun key => ?_, fun _ => rfl, iff_of_true rfl (.inl rfl)⟩
    rw [← htext key, ConfigMap.text?, hdata, Option.bind_some]
  · refine ⟨Logging.configMap ns name data (c.metadata.labels.or spare),
      (ObjectStore.configMap?_applyConfigMap ..).trans (if_pos ⟨rfl, rfl⟩), htext,
      or_eq_left_iff.mpr, ?_⟩
    rw [ConfigMap.configMap_alikeButData_iff, or_eq_left_iff]
    exact (or_iff_right (by rintro ⟨⟩)).symm

/-- A bridge says that it has written when it leaves another store. -/
theorem Bridge.applied_giving_iff {store : ObjectStore} {ns name : String} {data : Labels}
    {labels : Option Labels} :
    (giving store ns name data labels).outcome = .applied ↔
      (giving store ns name data labels).run store ns ≠ store := by
  have hbridged : store.Bridged ((giving store ns name data labels).run store ns) ns name data :=
    bridged_giving
  by_cases hdata : (store.configMap? ns name).bind (·.data) = some data
  · rw [giving, if_pos hdata]
    exact iff_of_false (by rintro ⟨⟩) (not_not_intro rfl)
  · refine iff_of_true (by rw [giving, if_neg hdata]) fun hsame => hdata ?_
    rw [hsame] at hbridged
    exact Option.bind_eq_some_iff.mpr hbridged.given

/-- A ConfigMap that a bridge finds is left with its labels and with its data under all keys but
those that are written: from a Secret, those to which keys of the Secret are renamed; within the
ConfigMap, the one for a StatefulSet. It stays as it was in all its other parts exactly when the
bridge found nothing to do, or it had no other parts and has not been labelled like the Secret. -/
theorem bridges_leave {store : ObjectStore} {ns name : String} {c : ConfigMap}
    (hc : store.configMap? ns name = some c) :
    (∀ {b : Bridge}, Logging.bridgeSecret store ns name = .ok b →
      ∃ secret c', store.secret? ns name = some secret
        ∧ (b.run store ns).configMap? ns name = some c'
        ∧ b.Leaves ns name secret.configText? secret.metadata.labels c c'
        ∧ ∀ key, (∀ k, Logging.renameKey k = key → secret.text? k = none) →
          c'.text? key = c.text? key)
    ∧ ∀ {b : Bridge}, Logging.relocateKey store ns name = .ok b →
      ∃ text c', c.text? Names.operatorLogKey = some text
        ∧ (b.run store ns).configMap? ns name = some c'
        ∧ b.Leaves ns name (fun key => if key = Names.legacyLogKey then some text else none) none
            c c' := by
  constructor
  · intro b hb
    obtain ⟨secret, texts, hsecret, htexts, rfl⟩ := Logging.bridgeSecret_eq_ok.mp hb
    have htext (key : String) := Logging.get?_addPayload_of_payload htexts
      (store.configData ns name) key
    simp only [ObjectStore.get?_configData hc] at htext
    obtain ⟨c', hc', hleaves⟩ :=
      Bridge.exists_leaves_giving hc _ secret.metadata.labels secret.configText? htext
    rw [hc, Option.bind_some]
    refine ⟨secret, c', hsecret, hc', hleaves, fun key hnone => ?_⟩
    rw [hleaves.text, Logging.configText?_eq_none_iff.mpr hnone, Option.none_or]
  · intro b hb
    obtain ⟨found, text, hfound, hoperator, rfl⟩ := Logging.relocateKey_eq_ok.mp hb
    obtain rfl := Option.some.inj (hc.symm.trans hfound)
    have htext (key : String) : ((store.configData ns name).insert Names.legacyLogKey text).get? key
        = (if key = Names.legacyLogKey then some text else none).or (c.text? key) := by
      rw [KeyMap.get?_insert, ObjectStore.get?_configData hc]
      split <;> rfl
    obtain ⟨c', hc', hleaves⟩ := Bridge.exists_leaves_giving hc _ none _ htext
    rw [Option.or_none] at hc' hleaves
    rw [ObjectStore.get?_configData hc] at hoperator
    exact ⟨text, c', hoperator, hc', hleaves⟩

namespace SmallCluster

/-- A ConfigMap that holds notes besides the configuration of logging. -/
def notedMap : ConfigMap :=
  Logging.configMap "n" "log" (.ofList [("logs.yaml", "b"), ("notes", "c")]) none

/-- A ConfigMap that is marked as another team's and holds a picture. -/
def sharedMap : ConfigMap :=
  { notedMap with
    metadata := { notedMap.metadata with annotations := some (.ofList [("owner", "team-a")]) }
    binaryData := some (.ofList [("logo.png", [137, 80, 78, 71])]) }

/-- The small cluster with configurations of logging in a Secret and a ConfigMap of one name. -/
def loggingTo (c : ConfigMap) : ObjectStore :=
  { loggingStore (.secret "log") [("log-config.yaml", "a")] [] with configMaps := .ofList [c] }

def noted : ObjectStore := loggingTo notedMap

def shared : ObjectStore := loggingTo sharedMap

end SmallCluster

open SmallCluster

theorem smallCluster_bridges :
    ∃ b b' c c',
      Logging.bridgeSecret noted "n" "log" = .ok b
      ∧ (b.run noted "n").configMap? "n" "log" = some c
      ∧ c.text? "logs.yaml" = some "a" ∧ c.text? "notes" = some "c" ∧ c.AlikeButData notedMap
      ∧ Logging.relocateKey noted "n" "log" = .ok b'
      ∧ (b'.run noted "n").configMap? "n" "log" = some c'
      ∧ c'.text? "log-config.yaml" = some "b" ∧ c'.text? "logs.yaml" = some "b"
      ∧ c'.AlikeButData notedMap := by
  have hc : noted.configMap? "n" "log" = some notedMap := by decide
  obtain ⟨b, hb⟩ := Outcome.exists_of_isOk
    (show (Logging.bridgeSecret noted "n" "log").isOk = true by decide)
  obtain ⟨b', hb'⟩ := Outcome.exists_of_isOk
    (show (Logging.relocateKey noted "n" "log").isOk = true by decide)
  obtain ⟨secret, c, hsecret, hrun, hleaves, -⟩ := (bridges_leave hc).1 hb
  obtain ⟨text, c', htext, hrun', hleaves'⟩ := (bridges_leave hc).2 hb'
  -- the Secret has a configuration for a StatefulSet, and neither notes nor labels
  have hlog : (noted.secret? "n" "log").bind (·.configText? "logs.yaml") = some "a" := by decide
  have hnotes : (noted.secret? "n" "log").bind (·.configText? "notes") = none := by decide
  have hspare : (noted.secret? "n" "log").bind (·.metadata.labels) = none := by decide
  rw [hsecret, Option.bind_some] at hlog hnotes hspare
  have hplain : notedMap.IsPlain "n" "log" := by decide
  obtain rfl : "b" = text := Option.some.inj htext
  refine ⟨b, b', c, c', hb, hrun, ?_, ?_, hleaves.alike.mpr (.inr ⟨hplain, .inr hspare⟩), hb',
    hrun', hleaves'.text "log-config.yaml", hleaves'.text "logs.yaml",
    hleaves'.alike.mpr (.inr ⟨hplain, .inr rfl⟩)⟩
  · rw [hleaves.text, hlog, Option.some_or]
  · rw [hleaves.text, hnotes, Option.none_or]
    rfl

/-- What a ConfigMap shares with others is lost when its configuration of logging is bridged. -/
theorem not_always_alike :
    ¬∀ (store : ObjectStore) (ns name : String) (c c' : ConfigMap) (b : Bridge),
      store.configMap? ns name = some c →
      Logging.bridgeSecret store ns name = .ok b ∨ Logging.relocateKey store ns name = .ok b →
      (b.run store ns).configMap? ns name = some c' → c'.AlikeButData c := by
  intro h
  let left := Logging.configMap "n" "log"
    (.ofList [("log-config.yaml", "b"), ("logs.yaml", "b"), ("notes", "c")]) none
  have hb : Logging.relocateKey shared "n" "log"
      = .ok { outcome := .applied, write := some left } := by decide
  have hlost : ¬left.AlikeButData sharedMap := by decide
  exact hlost (h shared "n" "log" sharedMap left _ (by decide) (.inr hb) (by decide))

end Handover
