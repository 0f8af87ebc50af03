import Handover.Proofs.BridgeFrame
import Handover.Proofs.Prepared

/-!
# Bridges one after the other

A bridge copies from a Secret to the ConfigMap of its name, or within a ConfigMap (`Copy`); what
the logging of a cluster needs is one of the two or none at all (`Call.act_on`). The two read
what the other writes, so a run may mix them in any order, and some of them fail. What holds of
one copy is then carried through the run: `Keeps` composes along calls (`Keeps.append`), and what
each call comes to is settled on whatever platform the calls before it have left (`calls_add`).
-/

namespace Handover.Logging

open Kubernetes

/-! ## Copies -/

/-- A Secret has texts when all its bytes are. -/
theorem exists_payload_iff {name : String} {secret : Secret} :
    (∃ texts, payload name secret = .ok texts)
      ↔ ∀ data ∈ secret.data, ∀ e ∈ data.entries, (Text.Base64.utf8? e.2).isSome := by
  have hentry (e : String × List UInt8) :
      (∃ t, payloadText name e = .ok t) ↔ (Text.Base64.utf8? e.2).isSome := by
    refine Outcome.exists_return_iff.trans ?_
    simp only [Outcome.required_eq_ok, Option.isSome_iff_exists]
  refine Outcome.exists_return_iff.trans (Outcome.exists_mapM_eq_ok.trans ?_)
  simp only [hentry]
  cases secret.data <;> simp

/-- A copy of a configuration of logging, to a ConfigMap. -/
inductive Copy where
  | fromSecret (ns name : String)
  | withinConfigMap (ns name : String)
  deriving DecidableEq, Repr

namespace Copy

/-- The namespace of the ConfigMap that is written. -/
def ns : Copy → String
  | .fromSecret ns _ => ns
  | .withinConfigMap ns _ => ns

/-- The name of the ConfigMap that is written. -/
def name : Copy → String
  | .fromSecret _ name => name
  | .withinConfigMap _ name => name

def decide (store : ObjectStore) : Copy → Outcome Bridge
  | .fromSecret ns name => bridgeSecret store ns name
  | .withinConfigMap ns name => relocateKey store ns name

/-- The text that is written under a key, if it is written to. -/
def text? (store : ObjectStore) (key : String) : Copy → Option String
  | .fromSecret ns name => (store.secret? ns name).bind (·.configText? key)
  | .withinConfigMap ns name =>
    if key = Names.legacyLogKey then (store.configData ns name).get? Names.operatorLogKey else none

/-- A copy can be made: all bytes of the Secret are texts, or the ConfigMap has a configuration
for the operator. -/
def IsPossible (store : ObjectStore) : Copy → Prop
  | .fromSecret ns name => ∃ secret, store.secret? ns name = some secret
      ∧ ∀ data ∈ secret.data, ∀ e ∈ data.entries, (Text.Base64.utf8? e.2).isSome
  | .withinConfigMap ns name => ((store.configData ns name).get? Names.operatorLogKey).isSome

/-- Decide on the objects of the platform, and write. -/
def act (copy : Copy) : OnPlatform BridgeOutcome := do
  let bridge ← copy.decide (← OnPlatform.objects)
  modify fun platform => { platform with store := bridge.run platform.store copy.ns }
  return bridge.outcome

open OnPlatform in
theorem act_on (copy : Copy) (platform : Platform) :
    copy.act.on platform = match copy.decide platform.store with
      | .ok b => (.ok b.outcome, { platform with store := b.run platform.store copy.ns })
      | .error failure => (.error failure, platform) := by
  simp only [act, on_objects_bind, on_outcome_bind]
  cases copy.decide platform.store <;> rfl

theorem exists_decide_iff {store : ObjectStore} {copy : Copy} :
    (∃ b, copy.decide store = .ok b) ↔ copy.IsPossible store := by
  cases copy with
  | fromSecret ns name =>
    constructor
    · rintro ⟨b, h⟩
      obtain ⟨secret, texts, hsecret, htexts, -⟩ := bridgeSecret_eq_ok.mp h
      exact ⟨secret, hsecret, exists_payload_iff.mp ⟨texts, htexts⟩⟩
    · rintro ⟨secret, hsecret, htext⟩
      obtain ⟨texts, htexts⟩ := exists_payload_iff.mpr htext
      exact ⟨_, bridgeSecret_eq_ok.mpr ⟨secret, texts, hsecret, htexts, rfl⟩⟩
  | withinConfigMap ns name =>
    constructor
    · rintro ⟨b, h⟩
      obtain ⟨c, text, -, htext, -⟩ := relocateKey_eq_ok.mp h
      exact Option.isSome_of_eq_some htext
    · intro hsome
      obtain ⟨text, htext⟩ := Option.isSome_iff_exists.mp hsome
      -- data with a key is that of a ConfigMap
      cases hc : store.configMap? ns name with
      | none =>
        rw [ObjectStore.configData, hc] at htext
        cases htext
      | some c => exact ⟨_, relocateKey_eq_ok.mpr ⟨c, text, hc, htext, rfl⟩⟩

/-- A copy gives its ConfigMap the data it has and the texts that are written, and on a store
where this has been done it has nothing to do. -/
theorem exists_giving_of_decide {store : ObjectStore} {copy : Copy} {b : Bridge}
    (h : copy.decide store = .ok b) :
    ∃ data labels, b = .giving store copy.ns copy.name data labels
      ∧ (∀ key, data.get? key
          = (copy.text? store key).or ((store.configData copy.ns copy.name).get? key))
      ∧ ∀ {store' : ObjectStore}, store.Bridged store' copy.ns copy.name data →
          copy.decide store' = .ok { outcome := .unchanged } := by
  cases copy with
  | fromSecret ns name =>
    obtain ⟨secret, texts, hsecret, htexts, rfl⟩ := bridgeSecret_eq_ok.mp h
    refine ⟨_, _, rfl, fun key => ?_, bridgeSecret_of_bridged hsecret htexts⟩
    rw [text?, hsecret, Option.bind_some]
    exact get?_addPayload_of_payload htexts _ key
  | withinConfigMap ns name =>
    obtain ⟨c, text, -, htext, rfl⟩ := relocateKey_eq_ok.mp h
    refine ⟨_, _, rfl, fun key => ?_, relocateKey_of_bridged htext⟩
    rw [text?, KeyMap.get?_insert]
    split
    · exact (congrArg (Option.or · _) htext).symm
    · rfl

/-- A copy has been made: its ConfigMap has been given data. -/
structure Made (copy : Copy) (platform left : Platform) (data : Labels) : Prop where
  elsewhere : left =
    { platform with store := { platform.store with configMaps := left.store.configMaps } }
  bridged : platform.store.Bridged left.store copy.ns copy.name data
  text : ∀ key, data.get? key
    = (copy.text? platform.store key).or ((platform.store.configData copy.ns copy.name).get? key)
  again : copy.act.on left = (.ok .unchanged, left)

/-- A copy that can be made is made, and one that cannot leaves the platform as it was. -/
theorem act_cases (copy : Copy) (platform : Platform) :
    (¬copy.IsPossible platform.store
        ∧ ∃ failure, copy.act.on platform = (.error failure, platform))
      ∨ copy.IsPossible platform.store
        ∧ ∃ outcome left data, copy.act.on platform = (.ok outcome, left)
          ∧ outcome ≠ .skipped ∧ (outcome = .applied ↔ left ≠ platform)
          ∧ copy.Made platform left data := by
  rw [← exists_decide_iff]
  cases hdecide : copy.decide platform.store with
  | error failure => exact .inl ⟨by rintro ⟨b, ⟨⟩⟩, failure, by rw [act_on, hdecide]⟩
  | ok b =>
    obtain ⟨data, labels, rfl, htext, hagain⟩ := exists_giving_of_decide hdecide
    refine .inr ⟨⟨_, rfl⟩, _, _, data, by rw [act_on, hdecide], ?_, ?_, ?_,
      Bridge.bridged_giving, htext, ?_⟩
    · rw [Bridge.giving]
      split <;> rintro ⟨⟩
    · rw [Bridge.applied_giving_iff]
      exact not_congr ⟨fun h => by rw [h], congrArg Platform.store⟩
    · rw [Bridge.giving]
      split <;> rfl
    · rw [act_on, hagain Bridge.bridged_giving]
      rfl

namespace Made

variable {copy : Copy} {platform left : Platform} {data : Labels}

theorem growsTo (h : copy.Made platform left data) : platform.store.GrowsTo left.store := by
  refine h.bridged.growsTo fun {key} hkey => ?_
  rw [h.text, Option.isSome_or, hkey, Bool.or_true]

/-- A copy within a ConfigMap does not write to the configuration for the operator. -/
theorem operatorText (h : copy.Made platform left data) {ns name : String}
    (hcopy : copy ≠ .fromSecret ns name) :
    (left.store.configData ns name).get? Names.operatorLogKey
      = (platform.store.configData ns name).get? Names.operatorLogKey := by
  rw [h.bridged.configData]
  split
  · rename_i hkey
    obtain ⟨rfl, rfl⟩ := hkey
    rw [h.text]
    cases copy with
    | fromSecret => exact absurd rfl hcopy
    | withinConfigMap => rfl
  · rfl

end Made

end Copy

/-! ## Calls -/

/-- The copy that the logging of a cluster needs. -/
def copy? (direction : Direction) (o : ClusterObservation) : Option Copy :=
  match direction, o.logging with
  | .toCrdbNodes, some (.secret name) => some (.fromSecret o.ns name)
  | .toStatefulSet, some (.configMap name) => some (.withinConfigMap o.ns name)
  | _, _ => none

/-- A call for a copy, or for the one that the logging of a cluster needs. -/
inductive Call where
  | ofCopy (copy : Copy)
  | logging (direction : Direction) (o : ClusterObservation)

namespace Call

def act : Call → OnPlatform BridgeOutcome
  | .ofCopy copy => copy.act
  | .logging direction o => OnPlatform.bridgeLogging direction o

def copy? : Call → Option Copy
  | .ofCopy copy => some copy
  | .logging direction o => Logging.copy? direction o

/-- The ConfigMap of a name is the one that a call is about. -/
def IsAbout (call : Call) (ns name : String) : Prop :=
  ∃ copy, call.copy? = some copy ∧ ns = copy.ns ∧ name = copy.name

/-- A call makes its copy, or does nothing. -/
theorem act_on (call : Call) (platform : Platform) :
    call.act.on platform = match call.copy? with
      | some copy => copy.act.on platform
      | none => (.ok .skipped, platform) := by
  cases call with
  | ofCopy copy => rfl
  | logging direction o =>
    simp only [act, copy?, OnPlatform.bridgeLogging, Logging.copy?, Logging.bridge]
    cases direction <;> rcases o.logging with _ | _ | _ <;> rfl

variable {call : Call}

theorem act_on_of_some {copy : Copy} (h : call.copy? = some copy) (platform : Platform) :
    call.act.on platform = copy.act.on platform := by
  rw [act_on, h]

theorem act_on_of_none (h : call.copy? = none) (platform : Platform) :
    call.act.on platform = (.ok .skipped, platform) := by
  rw [act_on, h]

end Call

/-! ## What calls keep -/

/-- What some calls keep, whatever they come to. -/
structure Keeps (calls : List Call) (platform left : Platform) : Prop where
  /-- Only ConfigMaps are written, so that Secrets and all else are as before. -/
  elsewhere : left =
    { platform with store := { platform.store with configMaps := left.store.configMaps } }
  /-- A ConfigMap that no call is about is as before. -/
  others : ∀ {ns name : String}, (∀ call ∈ calls, ¬call.IsAbout ns name) →
    left.store.configMap? ns name = platform.store.configMap? ns name
  /-- No ConfigMap and no key of its data goes away. -/
  grows : platform.store.GrowsTo left.store
  /-- The configuration for the operator changes only where a Secret is copied. -/
  operatorText : ∀ {ns name : String},
    (∀ call ∈ calls, call.copy? ≠ some (.fromSecret ns name)) →
    (left.store.configData ns name).get? Names.operatorLogKey
      = (platform.store.configData ns name).get? Names.operatorLogKey

namespace Keeps

variable {calls calls' : List Call} {platform left left' : Platform}

theorem refl (calls : List Call) (platform : Platform) : Keeps calls platform platform :=
  ⟨rfl, fun _ => rfl, .refl _, fun _ => rfl⟩

theorem append (h : Keeps calls platform left) (h' : Keeps calls' left left') :
    Keeps (calls ++ calls') platform left' where
  elsewhere := by
    rw [h'.elsewhere, h.elsewhere]
  others hothers := by
    obtain ⟨hothers, hothers'⟩ := List.forall_mem_append.mp hothers
    rw [h'.others hothers', h.others hothers]
  grows := h.grows.trans h'.grows
  operatorText hnone := by
    obtain ⟨hnone, hnone'⟩ := List.forall_mem_append.mp hnone
    rw [h'.operatorText hnone', h.operatorText hnone]

end Keeps

/-- One call keeps what calls keep. -/
theorem keeps_act (call : Call) (platform : Platform) :
    Keeps [call] platform (call.act.on platform).2 := by
  cases hcall : call.copy? with
  | none =>
    rw [Call.act_on_of_none hcall]
    exact .refl _ _
  | some copy =>
    rw [Call.act_on_of_some hcall]
    obtain ⟨-, failure, hact⟩ | ⟨-, outcome, left, data, hact, -, -, hmade⟩ :=
      copy.act_cases platform
    · rw [hact]
      exact .refl _ _
    · rw [hact]
      refine ⟨hmade.elsewhere, fun hothers => hmade.bridged.others ?_, hmade.growsTo,
        fun hnone => hmade.operatorText ?_⟩
      · rintro ⟨hns, hname⟩
        exact hothers call (List.mem_singleton_self call) ⟨copy, hcall, hns, hname⟩
      · rintro rfl
        exact hnone call (List.mem_singleton_self call) hcall

/-! ## Runs -/

/-- The platform that calls leave, one made after the other, whether or not they fail. -/
def leftBy (calls : List Call) (platform : Platform) : Platform :=
  calls.foldl (fun platform call => (call.act.on platform).2) platform

theorem leftBy_append (calls calls' : List Call) (platform : Platform) :
    leftBy (calls ++ calls') platform = leftBy calls' (leftBy calls platform) :=
  List.foldl_append

/-- A run keeps what calls keep. -/
theorem keeps_leftBy (calls : List Call) (platform : Platform) :
    Keeps calls platform (leftBy calls platform) := by
  induction calls generalizing platform with
  | nil => exact .refl _ _
  | cons call calls ih => exact (keeps_act call platform).append (ih _)

/-- What a call comes to, with its result and the platform that it leaves. -/
structure Call.Settles (call : Call) (platform left : Platform)
    (result : Outcome BridgeOutcome) : Prop where
  /-- A call succeeds when its copy can be made, or it needs none. -/
  succeeds : (∃ outcome, result = .ok outcome) ↔
    ∀ copy, call.copy? = some copy → copy.IsPossible platform.store
  failed : ∀ {failure : Failure}, result = .error failure → left = platform
  /-- A call says that it has written when it leaves another platform. -/
  applied : ∀ {outcome : BridgeOutcome}, result = .ok outcome →
    (outcome = .applied ↔ left ≠ platform)
  /-- What was written is there, and under every other key what was there before. -/
  written : ∀ {outcome : BridgeOutcome} {copy : Copy},
    result = .ok outcome → call.copy? = some copy →
    ∀ key, (left.store.configData copy.ns copy.name).get? key
      = (copy.text? platform.store key).or
        ((platform.store.configData copy.ns copy.name).get? key)
  /-- The same call at once does nothing, and says so. -/
  again : ∀ {outcome : BridgeOutcome}, result = .ok outcome →
    call.act.on left = (.ok (if outcome = .skipped then .skipped else .unchanged), left)

theorem Call.settles (call : Call) (platform : Platform) :
    call.Settles platform (call.act.on platform).2 (call.act.on platform).1 := by
  cases hcall : call.copy? with
  | none =>
    rw [Call.act_on_of_none hcall]
    refine ⟨iff_of_true ⟨_, rfl⟩ ?_, nofun, ?_, ?_, ?_⟩
    · intro copy hcopy
      cases hcall.symm.trans hcopy
    · rintro outcome ⟨⟩
      exact iff_of_false nofun (not_not_intro rfl)
    · intro outcome copy _ hcopy
      cases hcall.symm.trans hcopy
    · rintro outcome ⟨⟩
      exact Call.act_on_of_none hcall platform
  | some copy =>
    rw [Call.act_on_of_some hcall]
    obtain ⟨hnot, failure, hfailed⟩
      | ⟨hpossible, outcome, left, data, hdone, hmakes, happlied, hmade⟩ := copy.act_cases platform
    · rw [hfailed]
      exact ⟨iff_of_false nofun fun h => hnot (h copy hcall), fun _ => rfl, nofun, nofun, nofun⟩
    · rw [hdone]
      refine ⟨iff_of_true ⟨outcome, rfl⟩ ?_, nofun, ?_, ?_, ?_⟩
      · intro copy' hcopy
        rwa [← Option.some.inj (hcall.symm.trans hcopy)]
      · rintro outcome ⟨⟩
        exact happlied
      · intro outcome copy' _ hcopy key
        obtain rfl := Option.some.inj (hcall.symm.trans hcopy)
        rw [hmade.bridged.configData, if_pos ⟨rfl, rfl⟩, hmade.text]
      · rintro outcome ⟨⟩
        rw [Call.act_on_of_some hcall, hmade.again, if_neg hmakes]

/-- Along a run of calls, each on the platform that the ones before it have left, only ConfigMaps
are written, only those that the calls are about, and none of them loses a key; the configuration
for the operator is changed by copies from a Secret alone. A call that fails changes nothing, and
one that does not fail has nothing to do when it is made again at once. -/
theorem calls_add (platform : Platform) (calls : List Call) :
    (∀ before between after, calls = before ++ between ++ after →
      Keeps between (leftBy before platform) (leftBy (before ++ between) platform))
    ∧ ∀ before call after, calls = before ++ call :: after →
      call.Settles (leftBy before platform) (leftBy (before ++ [call]) platform)
        (call.act.on (leftBy before platform)).1 := by
  refine ⟨fun before between _ _ => ?_, fun before call _ _ => ?_⟩
  · rw [leftBy_append]
    exact keeps_leftBy between _
  · rw [leftBy_append]
    exact call.settles _

/-- The small cluster with configurations of logging in a Secret and in a ConfigMap. -/
def bothLogging : Platform where
  store := SmallCluster.loggingStore (.secret "log") [("log-config.yaml", "a")]
    [("logs.yaml", "b"), ("notes", "c")]

/-- A copy within the ConfigMap, one from a Secret that does not exist, one from the Secret, and
one within the ConfigMap again. -/
def mixedCalls : List Call :=
  [.ofCopy (.withinConfigMap "n" "log"), .ofCopy (.fromSecret "n" "other"),
    .ofCopy (.fromSecret "n" "log"), .ofCopy (.withinConfigMap "n" "log")]

/-- What a Secret brings to the ConfigMap of its name is copied on within it; then all is there. -/
theorem smallCluster_calls :
    Keeps mixedCalls bothLogging (leftBy mixedCalls bothLogging)
      ∧ (leftBy mixedCalls bothLogging).store.configData "n" "log"
        = .ofList [("log-config.yaml", "a"), ("logs.yaml", "a"), ("notes", "c")]
      ∧ (Call.ofCopy (.withinConfigMap "n" "log")).act.on (leftBy mixedCalls bothLogging)
        = (.ok .unchanged, leftBy mixedCalls bothLogging) := by
  obtain ⟨hkeeps, hsettles⟩ := calls_add bothLogging mixedCalls
  have hlast : ((Call.ofCopy (.withinConfigMap "n" "log")).act.on
      (leftBy (mixedCalls.take 3) bothLogging)).1 = .ok .applied := by decide
  exact ⟨hkeeps [] mixedCalls [] rfl, by decide,
    (hsettles (mixedCalls.take 3) _ [] rfl).again hlast⟩

end Handover.Logging
