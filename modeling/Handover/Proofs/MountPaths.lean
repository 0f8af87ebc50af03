import Handover.Proofs.FailoverKept

/-!
# Mount paths as folders

Whether a path lies within a mount path is asked of texts, of which both may end in slashes. A
mount path stands for its folder, the characters that all paths below begin with, and then the
question is one of prefixes (`isWithin_iff`). So the mount paths that a path lies within are nested
in each other (`isWithin_or_isWithin`), and two that lie within each other are the same but for the
slashes at their ends (`dropSlashes_eq_of_isWithin`).
-/

namespace Handover

namespace Text

theorem exists_slashes (s : String) :
    ∃ k, s.toList = (dropSlashes s).toList ++ List.replicate k '/' := by
  have hslashes : ∀ c ∈ List.rtakeWhile (· == '/') s.toList, c = '/' := by
    intro c hc
    simpa using List.mem_rtakeWhile_imp hc
  refine ⟨(List.rtakeWhile (· == '/') s.toList).length, ?_⟩
  rw [← List.eq_replicate_of_mem hslashes]
  show _ = (String.ofList (List.rdropWhile _ s.toList)).toList ++ _
  rw [String.toList_ofList, List.rdropWhile_append_rtakeWhile]

theorem dropSlashes_ne_concat {s : String} {cs : List Char} :
    (dropSlashes s).toList ≠ cs ++ ['/'] := by
  intro h
  have hdrop : List.rdropWhile (· == '/') s.toList = cs ++ ['/'] := by
    rw [← h]
    exact String.toList_ofList.symm
  have hne : List.rdropWhile (· == '/') s.toList ≠ [] := by simp [hdrop]
  have hlast := List.rdropWhile_last_not (· == '/') s.toList hne
  simp [hdrop] at hlast

end Text

namespace Storage

/-- What the paths below a path begin with. -/
def folder (path : String) : List Char := (Text.dropSlashes path).toList ++ ['/']

theorem dropSlashes_eq_of_folder {path path' : String} (h : folder path = folder path') :
    Text.dropSlashes path = Text.dropSlashes path' :=
  String.toList_inj.mp (List.append_cancel_right h)

theorem isWithin_iff_chars {path mount : String} :
    isWithin path mount = true ↔ folder mount <+: path.toList ++ ['/'] := by
  have hbelow : s!"{Text.dropSlashes mount}/".toList = folder mount := String.toList_append
  rw [isWithin, Bool.or_eq_true, decide_eq_true_eq, Text.startsWith_iff, hbelow,
    List.prefix_concat_iff, ← String.toList_inj]
  refine or_congr ?_ Iff.rfl
  rw [folder, List.append_cancel_right_eq]
  exact eq_comm

/-- Slashes at the end of a path put it into no further folder. -/
theorem prefix_of_slashes {path mount : String} {k : Nat}
    (h : folder mount <+: (Text.dropSlashes path).toList ++ List.replicate k '/' ++ ['/']) :
    folder mount <+: folder path := by
  induction k with
  | zero => simpa [folder] using h
  | succ k ih =>
    rw [List.replicate_succ', ← List.append_assoc] at h
    rcases List.prefix_concat_iff.mp h with heq | h
    · exact absurd (List.append_cancel_right heq) Text.dropSlashes_ne_concat
    · exact ih h

theorem isWithin_iff {path mount : String} :
    isWithin path mount = true ↔ folder mount <+: folder path := by
  rw [isWithin_iff_chars]
  obtain ⟨k, hk⟩ := Text.exists_slashes path
  rw [hk]
  refine ⟨prefix_of_slashes, fun h => h.trans ?_⟩
  cases k with
  | zero => simp [folder]
  | succ k => exact ⟨List.replicate k '/' ++ ['/'], by simp [folder, List.replicate_succ]⟩

theorem isWithin_refl (path : String) : isWithin path path = true :=
  isWithin_iff.mpr (List.prefix_refl _)

/-- Of two mount paths above one path, one lies within the other. -/
theorem isWithin_or_isWithin {path mount mount' : String} (h : isWithin path mount = true)
    (h' : isWithin path mount' = true) :
    isWithin mount mount' = true ∨ isWithin mount' mount = true := by
  rw [isWithin_iff, isWithin_iff]
  exact List.prefix_or_prefix_of_prefix (isWithin_iff.mp h') (isWithin_iff.mp h)

theorem dropSlashes_eq_of_isWithin {mount mount' : String} (h : isWithin mount mount' = true)
    (h' : isWithin mount' mount = true) : Text.dropSlashes mount = Text.dropSlashes mount' :=
  have hle := (isWithin_iff.mp h').length_le
  dropSlashes_eq_of_folder ((isWithin_iff.mp h).eq_of_length_le hle).symm

end Storage

end Handover
