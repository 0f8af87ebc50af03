import Handover.Proofs.MountPaths

/-!
# Modes of failover and their values

Each mode has a value in normal form, and it is read as that mode again. The values of a mode differ
from the normal one only in slashes at the end of a path (`WalFailover.classify_sideDisk_iff`), and
every text that is not a value of a mode is refused for a reason that it gives itself
(`WalFailover.Refused`). So no text is taken for another mode than the one that it spells
(`WalFailover.classify_exact`).
-/

namespace Handover

/-! ## Slashes at the end -/

def Text.slashes (k : Nat) : String := String.ofList (List.replicate k '/')

theorem Text.startsWith_slash_iff {path : String} :
    Text.startsWith path "/" = true ↔ path.toList.head? = some '/' := by
  rw [Text.startsWith_iff]
  show ['/'] <+: path.toList ↔ _
  cases path.toList with
  | nil => simp
  | cons c cs => simp [eq_comm]

/-- Slashes that are put to the end of a text go away again. -/
theorem Text.dropSlashes_append_slashes (s : String) (k : Nat) :
    Text.dropSlashes (s ++ Text.slashes k) = Text.dropSlashes s := by
  refine congrArg String.ofList ?_
  show List.rdropWhile _ _ = List.rdropWhile _ _
  rw [String.toList_append, Text.slashes, String.toList_ofList]
  induction k with
  | zero => simp
  | succ k ih =>
    rw [List.replicate_succ', ← List.append_assoc, List.rdropWhile_concat_pos _ _ _ (by simp), ih]

namespace WalFailover

/-- A path in normal form: it is absolute, and no slash stands at its end but that of the root. -/
structure NormalPath (path : String) : Prop where
  absolute : path.toList.head? = some '/'
  bare : path = "/" ∨ path.toList.getLast? ≠ some '/'

variable {value : Option String} {storeCount : Nat} {mode : WalFailover} {failure : Failure}

theorem normalPath_trimPath {path : String} (h : path.toList.head? = some '/') :
    NormalPath (trimPath path) := by
  have habsolute := startsWith_trimPath (Text.startsWith_slash_iff.mpr h)
  refine ⟨Text.startsWith_slash_iff.mp habsolute, ?_⟩
  rw [trimPath]
  split
  · exact .inl rfl
  · refine .inr fun hlast => ?_
    obtain ⟨cs, hcs⟩ := List.getLast?_eq_some_iff.mp hlast
    exact Text.dropSlashes_ne_concat hcs

/-- A path in normal form is what is left of it when slashes are put to its end. -/
theorem NormalPath.trimPath_append {path : String} (h : NormalPath path) (k : Nat) :
    trimPath (path ++ Text.slashes k) = path := by
  rw [trimPath, Text.dropSlashes_append_slashes]
  rcases h.bare with rfl | hbare
  · decide
  · have hself : Text.dropSlashes path = path := by
      rw [← String.toList_inj]
      show (String.ofList (List.rdropWhile _ path.toList)).toList = _
      rw [String.toList_ofList, List.rdropWhile_eq_self_iff]
      intro hne hslash
      refine hbare ?_
      rw [List.getLast?_eq_some_getLast hne]
      simpa using hslash
    rw [hself, if_neg]
    intro hempty
    have habsolute := h.absolute
    rw [String.isEmpty_iff.mp hempty] at habsolute
    cases habsolute

/-- What is trimmed off a path are slashes. -/
theorem exists_slashes_trimPath {path : String} (h : path.toList.head? = some '/') :
    ∃ k, path = trimPath path ++ Text.slashes k := by
  obtain ⟨k, hk⟩ := Text.exists_slashes path
  rw [trimPath]
  split
  · rename_i hempty
    rw [String.isEmpty_iff.mp hempty] at hk
    cases k with
    | zero =>
      rw [hk] at h
      cases h
    | succ k =>
      exact ⟨k, String.toList_inj.mp (by simpa [Text.slashes, List.replicate_succ] using hk)⟩
  · exact ⟨k, String.toList_inj.mp (by simpa [Text.slashes] using hk)⟩

/-! ## Values of a mode -/

theorem classify_disabled_iff :
    classify value storeCount = .ok .disabled ↔ value = none ∨ value = some "disabled" := by
  rw [classify_eq_ok]
  constructor
  · intro h
    cases h with
    | absent => exact .inl rfl
    | disabled => exact .inr rfl
  · rintro (rfl | rfl)
    · exact .absent
    · exact .disabled

theorem classify_amongStores_iff :
    classify value storeCount = .ok .amongStores ↔
      value = some "among-stores" ∧ 1 < storeCount := by
  rw [classify_eq_ok]
  constructor
  · intro h
    cases h with
    | amongStores hmany => exact ⟨rfl, hmany⟩
  · rintro ⟨rfl, hmany⟩
    exact .amongStores hmany

theorem toString_path_slashes (path : String) (k : Nat) :
    s!"path={path}{Text.slashes k}" = s!"path={path ++ Text.slashes k}" := by
  simp [toString, String.append_assoc]

/-- A mode with a path has the values that name the path, with slashes at its end or without. -/
theorem classify_sideDisk_iff {path : String} :
    classify value storeCount = .ok (.sideDisk path) ↔
      NormalPath path ∧ ∃ k, value = some s!"path={path}{Text.slashes k}" := by
  rw [classify_eq_ok]
  constructor
  · intro h
    cases h with
    | sideDisk habsolute =>
      rw [Text.startsWith_slash_iff] at habsolute
      obtain ⟨k, hk⟩ := exists_slashes_trimPath habsolute
      exact ⟨normalPath_trimPath habsolute, k, by rw [toString_path_slashes, ← hk]⟩
  · rintro ⟨hnormal, k, rfl⟩
    have hpath : Text.startsWith (path ++ Text.slashes k) "/" = true := by
      rw [Text.startsWith_slash_iff, String.toList_append, List.head?_append, hnormal.absolute,
        Option.some_or]
    have hmeans : Means storeCount _ _ := .sideDisk hpath
    rwa [hnormal.trimPath_append, ← toString_path_slashes] at hmeans

/-! ## Texts that are no values -/

/-- A text is refused for a reason. -/
inductive Refused (storeCount : Nat) : String → Failure → Prop
  | tooFewStores : storeCount ≤ 1 →
    Refused storeCount "among-stores" (.validation (.tooFewStores storeCount))
  | relative {path : String} : path.toList.head? ≠ some '/' →
    Refused storeCount s!"path={path}" (.parse flag (.relativeFailoverPath path))
  | unknown {text : String} : text ≠ "disabled" → text ≠ "among-stores" →
    (∀ path : String, text ≠ s!"path={path}") →
    Refused storeCount text (.parse flag (.unknownFailoverMode text))

theorem classify_unknown {text : String} (hdisabled : text ≠ "disabled")
    (hamong : text ≠ "among-stores") (hpath : ∀ path : String, text ≠ s!"path={path}")
    (storeCount : Nat) :
    classify (some text) storeCount = .error (.parse flag (.unknownFailoverMode text)) := by
  have hnone : Text.strip? "path=" text = none :=
    Option.eq_none_iff_forall_ne_some.mpr fun path h => hpath path (Text.strip?_eq_some_iff.mp h)
  rw [classify, if_neg hdisabled, if_neg hamong, hnone]

/-- A value is refused when it is there and spells no mode. -/
theorem classify_eq_error :
    classify value storeCount = .error failure ↔
      ∃ text, value = some text ∧ Refused storeCount text failure := by
  constructor
  · intro h
    rcases value with _ | text
    · cases h
    refine ⟨text, rfl, ?_⟩
    by_cases hdisabled : text = "disabled"
    · rw [hdisabled] at h
      cases h
    by_cases hamong : text = "among-stores"
    · subst hamong
      change (if 1 < storeCount then _ else _) = _ at h
      split at h
      · cases h
      · cases h
        exact .tooFewStores (by omega)
    by_cases hpath : ∃ path : String, text = s!"path={path}"
    · obtain ⟨path, rfl⟩ := hpath
      rw [classify_path] at h
      split at h
      · cases h
      · rename_i hrelative
        cases h
        exact .relative (mt Text.startsWith_slash_iff.mpr hrelative)
    · rw [not_exists] at hpath
      rw [classify_unknown hdisabled hamong hpath] at h
      cases h
      exact .unknown hdisabled hamong hpath
  · rintro ⟨text, rfl, hrefused⟩
    cases hrefused with
    | tooFewStores hfew => exact if_neg (by omega)
    | @relative path hrelative =>
      rw [classify_path, if_neg (mt Text.startsWith_slash_iff.mp hrelative)]
    | unknown hdisabled hamong hpath => exact classify_unknown hdisabled hamong hpath storeCount

/-! ## Modes as values again -/

/-- What a mode is written as is read as that mode. -/
theorem classify_flagValue (h : classify value storeCount = .ok mode) :
    classify (some mode.flagValue) storeCount = .ok mode := by
  cases mode with
  | disabled => rfl
  | amongStores => exact classify_amongStores_iff.mpr ⟨rfl, (classify_amongStores_iff.mp h).2⟩
  | sideDisk path =>
    refine classify_sideDisk_iff.mpr ⟨(classify_sideDisk_iff.mp h).1, 0, ?_⟩
    rw [toString_path_slashes, Text.slashes, List.replicate_zero, String.ofList_nil,
      String.append_empty]
    rfl

/-- A value is accepted when it is absent, spells a mode without a path, or names an absolute path,
and each mode is read from its own values only: side disks from their path in normal form, with
slashes at its end or without. Every other text is refused for the reason that it gives. What a mode
is written as is read as that mode. -/
theorem classify_exact (value : Option String) (storeCount : Nat) :
    ((∃ mode, classify value storeCount = .ok mode) ↔
        value = none ∨ value = some "disabled"
          ∨ (value = some "among-stores" ∧ 1 < storeCount)
          ∨ ∃ path : String, value = some s!"path={path}" ∧ path.toList.head? = some '/')
      ∧ (classify value storeCount = .ok .disabled ↔ value = none ∨ value = some "disabled")
      ∧ (classify value storeCount = .ok .amongStores ↔
        value = some "among-stores" ∧ 1 < storeCount)
      ∧ (∀ path, classify value storeCount = .ok (.sideDisk path) ↔
        NormalPath path ∧ ∃ k, value = some s!"path={path}{Text.slashes k}")
      ∧ (∀ failure, classify value storeCount = .error failure ↔
        ∃ text, value = some text ∧ Refused storeCount text failure)
      ∧ ∀ mode, classify value storeCount = .ok mode →
        classify (some mode.flagValue) storeCount = .ok mode := by
  refine ⟨?_, classify_disabled_iff, classify_amongStores_iff, fun path => classify_sideDisk_iff,
    fun failure => classify_eq_error, fun mode => classify_flagValue⟩
  constructor
  · rintro ⟨mode, h⟩
    cases classify_eq_ok.mp h with
    | absent => exact .inl rfl
    | disabled => exact .inr (.inl rfl)
    | amongStores hmany => exact .inr (.inr (.inl ⟨rfl, hmany⟩))
    | sideDisk habsolute =>
      exact .inr (.inr (.inr ⟨_, rfl, Text.startsWith_slash_iff.mp habsolute⟩))
  · rintro (rfl | rfl | ⟨rfl, hmany⟩ | ⟨path, rfl, habsolute⟩)
    · exact ⟨_, classify_disabled_iff.mpr (.inl rfl)⟩
    · exact ⟨_, classify_disabled_iff.mpr (.inr rfl)⟩
    · exact ⟨_, classify_amongStores_iff.mpr ⟨rfl, hmany⟩⟩
    · exact ⟨_, classify_eq_ok.mpr (.sideDisk (Text.startsWith_slash_iff.mpr habsolute))⟩

example : classify (some "path=/wal//") 1 = .ok (.sideDisk "/wal") := by decide

example : classify (some "path=//") 1 = .ok (.sideDisk "/") := by decide

end WalFailover

end Handover
