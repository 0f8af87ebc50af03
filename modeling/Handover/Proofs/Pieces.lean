import Handover.Proofs.ValuesKept
import Handover.Proofs.WholeWords
import Mathlib.Data.List.DropRight

/-!
# Pieces that are put together again

The nodes to join and the tiers of a locality are pieces between commas: blanks at the ends of an
entry are left out, and so are empty pieces. What is left, with commas between, is read as the same
pieces (`readJoin_join`, `readLocality_join`), and it is enclosed when the value was
(`enclosed_join_filter_map`): a comma stands in and behind no substitution that the blanks beside it
would have changed.
-/

namespace Handover

namespace Text

/-! ## Blanks at the ends -/

theorem toList_trim (s : String) :
    (trim s).toList = (s.toList.dropWhile isBlank).rdropWhile isBlank := by
  rw [trim, String.toList_ofList, List.rdropWhile]

/-- What is trimmed has no blank at its ends. -/
theorem trim_trim (s : String) : trim (trim s) = trim s := by
  rw [← String.toList_inj, toList_trim (trim s), toList_trim s]
  have hfront : ((s.toList.dropWhile isBlank).rdropWhile isBlank).dropWhile isBlank
      = (s.toList.dropWhile isBlank).rdropWhile isBlank := by
    obtain ⟨back, hback⟩ := List.rdropWhile_prefix isBlank (s.toList.dropWhile isBlank)
    cases hcs : (s.toList.dropWhile isBlank).rdropWhile isBlank with
    | nil => rfl
    | cons c cs =>
      -- it begins as the text without the blanks in front does
      have hc := List.head?_dropWhile_not isBlank s.toList
      rw [← hback, hcs] at hc
      exact List.dropWhile_cons_of_neg (by simpa using hc)
  rw [hfront, List.rdropWhile_idempotent]

/-- Nothing but blanks is left out at the ends. -/
theorem exists_around_trim (s : String) :
    ∃ front back, s.toList = front ++ ((trim s).toList ++ back)
      ∧ (∀ c ∈ front, isBlank c = true) ∧ ∀ c ∈ back, isBlank c = true := by
  let rest := s.toList.dropWhile isBlank
  refine ⟨s.toList.takeWhile isBlank, (rest.reverse.takeWhile isBlank).reverse, ?_,
    fun c hc => List.mem_takeWhile_imp hc,
    fun c hc => List.mem_takeWhile_imp (List.mem_reverse.mp hc)⟩
  have hrest : rest.rdropWhile isBlank ++ (rest.reverse.takeWhile isBlank).reverse = rest := by
    rw [List.rdropWhile, ← List.reverse_append, List.takeWhile_append_dropWhile,
      List.reverse_reverse]
  rw [toList_trim, hrest, List.takeWhile_append_dropWhile]

end Text

namespace StartCommand

open Text

/-! ## Reading pieces again -/

/-- Pieces without commas come apart at the commas between them. -/
theorem split_join_comma {pieces : List String} (hne : pieces ≠ [])
    (h : ∀ piece ∈ pieces, ',' ∉ piece.toList) : split ',' (join "," pieces) = pieces := by
  have hcomma : ",".toList = [','] := by decide
  exact split_join hcomma hne h

theorem readJoin_join (value : String) :
    readJoin (join "," (readJoin value)) = readJoin value := by
  by_cases hnone : readJoin value = []
  · rw [hnone]
    rfl
  have hentry {entry : String} (h : entry ∈ readJoin value) :
      ',' ∉ entry.toList ∧ trim entry = entry ∧ (!entry.isEmpty) = true := by
    obtain ⟨hentry, hne⟩ := List.mem_filter.mp h
    obtain ⟨piece, hpiece, rfl⟩ := List.mem_map.mp hentry
    exact ⟨fun hcomma => notMem_of_mem_split hpiece ((trim_sublist piece).mem hcomma),
      trim_trim piece, hne⟩
  have hsplit : split ',' (join "," (readJoin value)) = readJoin value :=
    split_join_comma hnone fun entry h => (hentry h).1
  have htrim : (readJoin value).map trim = readJoin value :=
    (List.map_congr_left fun entry h => (hentry h).2.1).trans (List.map_id _)
  rw [readJoin, hsplit, htrim, List.filter_eq_self.mpr fun entry h => (hentry h).2.2]

/-- The tiers of a locality with commas between them are read as the same locality. -/
theorem readLocality_join {value : String} {tiers : List (String × String)}
    (h : readLocality value = .ok tiers) (hsome : tiers ≠ []) :
    readLocality (join "," (tiers.map fun (tier, value) => s!"{tier}={value}")) = .ok tiers := by
  have htiers := map_tiers_of_readLocality h
  have hne : (split ',' value).filter (fun tier => !tier.isEmpty) ≠ [] := by
    rwa [← htiers, Ne, List.map_eq_nil_iff]
  have hsplit : split ',' (join "," ((split ',' value).filter fun tier => !tier.isEmpty))
      = (split ',' value).filter fun tier => !tier.isEmpty :=
    split_join_comma hne fun tier htier => notMem_of_mem_split (List.mem_of_mem_filter htier)
  rw [readLocality] at h
  rw [readLocality, htiers, hsplit, List.filter_filter]
  simpa only [Bool.and_self] using h

/-! ## Pieces that are enclosed -/

/-- A comma ends no substitution and opens none. -/
theorem count_comma (s : Nat × Bool) : count s ',' = (s.1, false) :=
  count_other (by decide) (by decide) s

theorem count_blank {c : Char} (h : isBlank c = true) (s : Nat × Bool) :
    count s c = (s.1, false) := by
  have hopening : isOpening c = false := by
    have hparen : c ≠ '(' := ne_of_isBlank h (by decide)
    have hbrace : c ≠ '\x7b' := ne_of_isBlank h (by decide)
    simp [isOpening, hparen, hbrace]
  have hclosing : isClosing c = false := by
    have hparen : c ≠ ')' := ne_of_isBlank h (by decide)
    have hbrace : c ≠ '\x7d' := ne_of_isBlank h (by decide)
    simp [isClosing, hparen, hbrace]
  rw [count_other hopening hclosing, decide_eq_false (ne_of_isBlank h (by decide))]

theorem foldl_count_blanks {cs : List Char} (h : ∀ c ∈ cs, isBlank c = true) (s : Nat × Bool) :
    (cs.foldl count s).1 = s.1 ∧ (s.2 = false → cs.foldl count s = s) := by
  induction cs generalizing s with
  | nil => exact ⟨rfl, fun _ => rfl⟩
  | cons c cs ih =>
    obtain ⟨hc, hcs⟩ := List.forall_mem_cons.mp h
    obtain ⟨hdepth, hsame⟩ := ih hcs (s.1, false)
    rw [List.foldl_cons, count_blank hc, hsame rfl]
    exact ⟨rfl, fun hdollar => Prod.ext rfl hdollar.symm⟩

/-- Substitutions are counted as open behind a piece as before, and none of its blanks is newly
outside of them. -/
def KeepsEnclosed (f : String → String) : Prop :=
  ∀ (depth : Nat) (piece : String), Enclosed (depth, false) piece.toList →
    Enclosed (depth, false) (f piece).toList
      ∧ ((f piece).toList.foldl count (depth, false)).1
        = (piece.toList.foldl count (depth, false)).1

theorem keepsEnclosed_trim : KeepsEnclosed trim := by
  intro depth piece h
  obtain ⟨front, back, hpiece, hfront, hback⟩ := exists_around_trim piece
  rw [hpiece, enclosed_append, enclosed_append, (foldl_count_blanks hfront _).2 rfl] at h
  rw [hpiece, List.foldl_append, List.foldl_append, (foldl_count_blanks hfront _).2 rfl,
    (foldl_count_blanks hback _).1]
  obtain ⟨-, htrim, -⟩ := h
  constructor
  · assumption
  · rfl

/-- Pieces that stand one behind the other with a comma between. -/
def EnclosedPieces (depth : Nat) : List String → Prop
  | [] => True
  | piece :: pieces => Enclosed (depth, false) piece.toList
    ∧ EnclosedPieces (piece.toList.foldl count (depth, false)).1 pieces

theorem enclosed_join_iff {depth : Nat} : ∀ {pieces : List String},
    Enclosed (depth, false) (join "," pieces).toList ↔ EnclosedPieces depth pieces
  | [] => iff_of_true trivial trivial
  | [piece] => by simp [join, EnclosedPieces]
  | piece :: next :: pieces => by
    have hcons : (join "," (piece :: next :: pieces)).toList
        = piece.toList ++ ',' :: (join "," (next :: pieces)).toList := by
      simp [join]
    rw [hcons, enclosed_append, Enclosed, count_comma, enclosed_join_iff, EnclosedPieces]
    refine and_congr_right fun _ => and_iff_right fun hblank => ?_
    exact absurd hblank (by decide)

theorem EnclosedPieces.filter_map {f : String → String} (hf : KeepsEnclosed f) {depth : Nat}
    {pieces : List String} (h : EnclosedPieces depth pieces) :
    EnclosedPieces depth ((pieces.map f).filter fun piece => !piece.isEmpty) := by
  induction pieces generalizing depth with
  | nil => trivial
  | cons piece pieces ih =>
    obtain ⟨hpiece, hpieces⟩ := h
    obtain ⟨henclosed, hdepth⟩ := hf depth piece hpiece
    have hrest := ih hpieces
    rw [← hdepth] at hrest
    rw [List.map_cons]
    by_cases hempty : f piece = ""
    · -- nothing is counted in a piece that is left out
      rw [hempty] at hrest ⊢
      rwa [List.filter_cons_of_neg (by simp)]
    · rw [List.filter_cons_of_pos (by simpa using hempty)]
      exact ⟨henclosed, hrest⟩

/-- What is left of the pieces of a value is enclosed when the value is. -/
theorem enclosed_join_filter_map {f : String → String} (hf : KeepsEnclosed f) {value : String}
    (h : Enclosed (0, false) value.toList) :
    Enclosed (0, false)
      (join "," (((split ',' value).map f).filter fun piece => !piece.isEmpty)).toList := by
  rw [← join_split value, enclosed_join_iff] at h
  rw [enclosed_join_iff]
  apply h.filter_map hf

end StartCommand

end Handover
