import Handover.Files.Tree
import Handover.Manifest.Emission
import Handover.Proofs.Names

/-!
# Where the paths of a run lead

A run writes a file in two steps: under a name of its own beside the file, and then under the
file's name. Both paths are made from the text of the directory's path, the second one by taking
a path apart again, so neither stands there as the directory and a name. Here they are brought
back to that: each leads to a name in the place to which the names in front of it lead
(`FileTree.locate_join`, `Emission.locate_temporary`), and that place depends on nothing but where
directories are (`FileTree.SameDirectories.directoryOf?_eq`).
-/

namespace Handover

/-! ## Pieces of a path -/

namespace Text

theorem splitChars_append (sep : Char) (before after : List Char) :
    splitChars sep (before ++ sep :: after) = splitChars sep before ++ splitChars sep after := by
  induction before with
  | nil => simp [splitChars]
  | cons c cs ih =>
    rw [List.cons_append, splitChars, splitChars, ih]
    split
    · rfl
    · obtain ⟨run, runs, hruns⟩ := List.exists_cons_of_ne_nil (splitChars_ne_nil sep cs)
      rw [hruns]
      rfl

theorem splitChars_of_notMem {sep : Char} {cs : List Char} (h : sep ∉ cs) :
    splitChars sep cs = [cs] := by
  induction cs with
  | nil => rfl
  | cons c cs ih =>
    obtain ⟨hc, hcs⟩ := List.ne_and_not_mem_of_not_mem_cons h
    rw [splitChars, if_neg (Ne.symm hc), ih hcs]

/-- Another character is in a text when it is in one of the runs. -/
theorem mem_splitChars_iff {sep c : Char} (hc : c ≠ sep) {cs : List Char} :
    (∃ run ∈ splitChars sep cs, c ∈ run) ↔ c ∈ cs := by
  induction cs with
  | nil => simp [splitChars]
  | cons a as ih =>
    rw [splitChars]
    split
    · rename_i ha
      rw [List.mem_cons, ← ih]
      simp [ha, hc]
    · obtain ⟨run, runs, hruns⟩ := List.exists_cons_of_ne_nil (splitChars_ne_nil sep as)
      rw [List.mem_cons, ← ih, hruns]
      simp [or_assoc]

theorem split_append_separator {sep : Char} {glue : String} (hglue : glue.toList = [sep])
    (before after : String) :
    split sep (before ++ glue ++ after) = split sep before ++ split sep after := by
  have hlist : (before ++ glue ++ after).toList = before.toList ++ sep :: after.toList := by
    simp [hglue]
  rw [split, hlist, splitChars_append, List.map_append]
  rfl

theorem split_append_slash (before after : String) :
    split '/' (before ++ "/" ++ after) = split '/' before ++ split '/' after :=
  split_append_separator rfl before after

theorem split_of_notMem {sep : Char} {s : String} (h : sep ∉ s.toList) : split sep s = [s] := by
  rw [split, splitChars_of_notMem h, List.map_singleton, String.ofList_toList]

theorem split_ne_nil (sep : Char) (s : String) : split sep s ≠ [] := by
  rw [split, Ne, List.map_eq_nil_iff]
  exact splitChars_ne_nil _ _

theorem notMem_of_mem_splitChars {sep : Char} {cs run : List Char}
    (h : run ∈ splitChars sep cs) : sep ∉ run := by
  induction cs generalizing run with
  | nil =>
    rw [splitChars, List.mem_singleton] at h
    rw [h]
    exact List.not_mem_nil
  | cons c cs ih =>
    rw [splitChars] at h
    split at h
    · rcases List.mem_cons.mp h with rfl | h
      · exact List.not_mem_nil
      · exact ih h
    · rename_i hc
      obtain ⟨first, runs, hruns⟩ := List.exists_cons_of_ne_nil (splitChars_ne_nil sep cs)
      rw [hruns] at h
      rcases List.mem_cons.mp h with rfl | h
      · rw [List.mem_cons, not_or]
        exact ⟨Ne.symm hc, ih (hruns ▸ List.mem_cons_self)⟩
      · exact ih (hruns ▸ List.mem_cons_of_mem first h)

theorem notMem_of_mem_split {sep : Char} {s piece : String} (h : piece ∈ split sep s) :
    sep ∉ piece.toList := by
  obtain ⟨run, hrun, rfl⟩ := List.mem_map.mp h
  rw [String.toList_ofList]
  exact notMem_of_mem_splitChars hrun

/-- Pieces that are put together come apart again. -/
theorem split_join {sep : Char} {glue : String} (hglue : glue.toList = [sep]) :
    ∀ {pieces : List String}, pieces ≠ [] → (∀ piece ∈ pieces, sep ∉ piece.toList) →
      split sep (join glue pieces) = pieces
  | [piece], _, h => split_of_notMem (h piece List.mem_cons_self)
  | piece :: next :: pieces, _, h => by
    have ih : split sep (join glue (next :: pieces)) = next :: pieces :=
      split_join hglue (List.cons_ne_nil _ _) fun p hp => h p (List.mem_cons_of_mem piece hp)
    have hcons : join glue (piece :: next :: pieces)
        = piece ++ glue ++ join glue (next :: pieces) := String.intercalate_cons_cons
    rw [hcons, split_append_separator hglue, ih, split_of_notMem (h piece List.mem_cons_self)]
    rfl

/-- Only a text that starts with a slash, or is empty, has an empty first piece. -/
theorem head?_splitChars_eq_nil_iff {sep : Char} {cs : List Char} :
    (splitChars sep cs).head? = some [] ↔ cs = [] ∨ cs.head? = some sep := by
  cases cs with
  | nil => simp [splitChars]
  | cons c cs =>
    rw [splitChars]
    split
    · rename_i hc
      simp [hc]
    · rename_i hc
      obtain ⟨run, runs, hruns⟩ := List.exists_cons_of_ne_nil (splitChars_ne_nil sep cs)
      rw [hruns]
      simp [hc]

theorem head?_split_eq_empty_iff {s : String} :
    (split '/' s).head? = some "" ↔ s = "" ∨ startsWith s "/" = true := by
  have hempty (run : List Char) : String.ofList run = "" ↔ run = [] := by
    rw [← String.toList_inj, String.toList_ofList]
    rfl
  have hhead : (split '/' s).head? = some "" ↔ (splitChars '/' s.toList).head? = some [] := by
    rw [split, List.head?_map]
    cases (splitChars '/' s.toList).head? with
    | none => simp
    | some run => simp [hempty]
  rw [hhead, head?_splitChars_eq_nil_iff, startsWith, List.isPrefixOf_iff_prefix]
  refine or_congr (by rw [← String.toList_inj]; rfl) ?_
  cases s.toList with
  | nil => simp
  | cons c cs => simp [eq_comm]

theorem contains_of_mem_split {s : String} {c : Char} (hc : c ≠ '/') :
    (∃ piece ∈ split '/' s, c ∈ piece.toList) ↔ c ∈ s.toList := by
  rw [← mem_splitChars_iff hc]
  constructor
  · rintro ⟨piece, hpiece, hmem⟩
    obtain ⟨run, hrun, rfl⟩ := List.mem_map.mp hpiece
    exact ⟨run, hrun, by rwa [String.toList_ofList] at hmem⟩
  · rintro ⟨run, hrun, hmem⟩
    exact ⟨String.ofList run, List.mem_map_of_mem hrun, by rwa [String.toList_ofList]⟩

end Text

namespace Path

/-- A text that can stand at the end of a path as the name of a file. -/
structure IsPlain (name : String) : Prop where
  ne_empty : name ≠ ""
  ne_dot : name ≠ "."
  ne_dots : name ≠ ".."
  no_slash : '/' ∉ name.toList
  no_null : '\x00' ∉ name.toList

instance : DecidablePred IsPlain := fun name =>
  decidable_of_iff (name ≠ "" ∧ name ≠ "." ∧ name ≠ ".." ∧ '/' ∉ name.toList
      ∧ '\x00' ∉ name.toList)
    ⟨fun ⟨hne, hdot, hdots, hslash, hnull⟩ => ⟨hne, hdot, hdots, hslash, hnull⟩,
      fun h => ⟨h.ne_empty, h.ne_dot, h.ne_dots, h.no_slash, h.no_null⟩⟩

/-- The pieces of a directory's path in front of a name in it. -/
def lead (dir : String) : List String :=
  if dir = "" then [] else if Text.endsWith dir "/" then (Text.split '/' dir).dropLast
  else Text.split '/' dir

/-- Only a slash at its end keeps a directory's path from being made of these pieces. -/
theorem exists_split_eq_lead {dir : String} (hne : dir ≠ "") :
    ∃ silent, Text.split '/' dir = lead dir ++ silent ∧ lead dir ≠ []
      ∧ ∀ piece ∈ silent, isSilent piece = true := by
  rw [lead, if_neg hne]
  by_cases hslash : Text.endsWith dir "/" = true
  · obtain ⟨before, rfl⟩ := Text.endsWith_iff_append.mp hslash
    have hdir : Text.split '/' (before ++ "/") = Text.split '/' before ++ [""] := by
      rw [← String.append_empty (s := before ++ "/"), Text.split_append_slash]
      rfl
    rw [if_pos hslash, hdir, List.dropLast_concat]
    exact ⟨[""], rfl, Text.split_ne_nil '/' before, by simp [isSilent]⟩
  · rw [if_neg hslash]
    exact ⟨[], (List.append_nil _).symm, Text.split_ne_nil '/' dir, by simp⟩

section

variable {name : String} (hname : IsPlain name)

include hname

theorem IsPlain.not_isAbsolute : isAbsolute name = false := by
  rw [isAbsolute, Bool.eq_false_iff]
  intro habsolute
  have hhead := Text.head?_split_eq_empty_iff.mpr (.inr habsolute)
  rw [Text.split_of_notMem hname.no_slash] at hhead
  exact hname.ne_empty (Option.some.inj hhead)

theorem IsPlain.isSilent_eq_false : isSilent name = false := by
  simp [isSilent, hname.ne_empty, hname.ne_dot]

/-- A path into a directory has the pieces of the directory's path in front of the name. -/
theorem split_join (dir : String) :
    Text.split '/' (join dir name) = lead dir ++ [name] := by
  have hsplit := Text.split_of_notMem hname.no_slash
  rw [join, hname.not_isAbsolute, if_neg Bool.false_ne_true, lead]
  by_cases hempty : dir = ""
  · simp [hempty, hsplit]
  · by_cases hslash : Text.endsWith dir "/" = true
    · obtain ⟨before, rfl⟩ := Text.endsWith_iff_append.mp hslash
      have hdir : Text.split '/' (before ++ "/") = Text.split '/' before ++ [""] := by
        rw [← String.append_empty (s := before ++ "/"), Text.split_append_slash]
        rfl
      simp [hslash, Text.split_append_slash, hsplit, hdir, hempty]
    · simp [hempty, hslash, Text.split_append_slash, hsplit]

/-- The last piece of a path into a directory is the name. -/
theorem pieces_join (dir : String) : pieces (join dir name) = name :: (lead dir).reverse := by
  rw [pieces, split_join hname, List.reverse_append, List.reverse_singleton,
    List.singleton_append]
  cases (lead dir).reverse with
  | nil => rfl
  | cons next rest => rw [dropSilent, if_neg (Bool.eq_false_iff.mp hname.isSilent_eq_false)]

theorem fileName?_join (dir : String) : fileName? (join dir name) = some name := by
  rw [fileName?, pieces_join hname]
  simp [hname.isSilent_eq_false, hname.ne_dots]

end

/-! ### The directory of a path, as a text -/

/-- Only silent pieces are dropped. -/
theorem exists_dropSilent (ps : List String) :
    ∃ silent, ps = silent ++ dropSilent ps ∧ ∀ piece ∈ silent, isSilent piece = true := by
  induction ps with
  | nil => exact ⟨[], rfl, by simp⟩
  | cons piece ps ih =>
    cases ps with
    | nil => exact ⟨[], rfl, by simp⟩
    | cons next ps =>
      rw [dropSilent]
      split
      · rename_i hsilent
        obtain ⟨silent, heq, hsilents⟩ := ih
        exact ⟨piece :: silent, congrArg (piece :: ·) heq,
          List.forall_mem_cons.mpr ⟨hsilent, hsilents⟩⟩
      · exact ⟨[], rfl, by simp⟩

theorem dropSilent_ne_nil {ps : List String} (h : ps ≠ []) : dropSilent ps ≠ [] := by
  induction ps with
  | nil => exact absurd rfl h
  | cons piece ps ih =>
    cases ps with
    | nil => exact List.cons_ne_nil _ _
    | cons next ps =>
      rw [dropSilent]
      split
      · exact ih (List.cons_ne_nil _ _)
      · exact List.cons_ne_nil _ _

/-- Of several pieces that are left, none at the end is empty. -/
theorem eq_of_head?_dropSilent {ps : List String} (h : (dropSilent ps).head? = some "") :
    dropSilent ps = [""] := by
  induction ps with
  | nil => cases h
  | cons piece ps ih =>
    cases ps with
    | nil =>
      obtain rfl : piece = "" := Option.some.inj h
      rfl
    | cons next ps =>
      rw [dropSilent] at h ⊢
      split at h
      · rename_i hsilent
        rw [if_pos hsilent]
        exact ih h
      · rename_i hsilent
        obtain rfl : piece = "" := Option.some.inj h
        exact absurd rfl hsilent

/-- A directory that is put together from pieces has these pieces in front of a name in it. -/
theorem lead_join {ps : List String} (hne : ps ≠ []) (hslash : ∀ piece ∈ ps, '/' ∉ piece.toList)
    (hlast : ps.getLast? ≠ some "") : lead (Text.join "/" ps) = ps := by
  have hsplit : Text.split '/' (Text.join "/" ps) = ps := Text.split_join rfl hne hslash
  rw [lead, if_neg, if_neg, hsplit]
  · intro hends
    obtain ⟨before, heq⟩ := Text.endsWith_iff_append.mp hends
    rw [heq, ← String.append_empty (s := before ++ "/"), Text.split_append_slash] at hsplit
    rw [← hsplit] at hlast
    exact hlast (by simp [Text.split_of_notMem (s := "") List.not_mem_nil])
  · intro hempty
    rw [hempty, Text.split_of_notMem (s := "") List.not_mem_nil] at hsplit
    rw [← hsplit] at hlast
    exact hlast rfl

theorem notMem_of_mem_lead {dir piece : String} (h : piece ∈ lead dir) : '/' ∉ piece.toList := by
  rw [lead] at h
  split at h
  · cases h
  · split at h
    · exact Text.notMem_of_mem_split (List.dropLast_subset _ h)
    · exact Text.notMem_of_mem_split h

/-- The directory of a path into a directory has the pieces of that directory, except for silent
ones at the end. -/
theorem lead_parent?_join {dir name : String} (hname : IsPlain name) :
    lead ((parent? (join dir name)).getD ".") = (dropSilent (lead dir).reverse).reverse := by
  rw [parent?, pieces_join hname]
  rcases hlead : (lead dir).reverse with _ | ⟨piece, rest⟩
  · simp [hname.ne_empty, lead, dropSilent]
  · dsimp only
    rw [← hlead]
    have hne : dropSilent (lead dir).reverse ≠ [] :=
      dropSilent_ne_nil (hlead ▸ List.cons_ne_nil _ _)
    split
    · rename_i hroot
      rw [hroot, Option.getD_some]
      decide
    · rename_i hroot
      rw [Option.getD_some]
      refine lead_join (by simpa using hne) (fun p hp => ?_) fun hlast => ?_
      · obtain ⟨silent, heq, -⟩ := exists_dropSilent (lead dir).reverse
        have hmem : p ∈ (lead dir).reverse := by
          rw [heq]
          exact List.mem_append_right silent (List.mem_reverse.mp hp)
        exact notMem_of_mem_lead (List.mem_reverse.mp hmem)
      · rw [List.getLast?_reverse] at hlast
        exact hroot (eq_of_head?_dropSilent hlast)

end Path

/-! ## Places -/

namespace FileTree

/-- The place to which pieces of a path lead from a place, over directories only. -/
def descend (t : FileTree) : Place → List String → Option Place
  | place, [] => some place
  | place, piece :: pieces =>
    if Path.isSilent piece then t.descend place pieces
    else if piece = ".." then t.descend place.dropLast pieces
    else if longestName < piece.utf8ByteSize then none
    else if t.entry? (place ++ [piece]) = some .directory then
      t.descend (place ++ [piece]) pieces
    else none

/-- The place to which the pieces in front of a name lead. -/
def directoryOf? (t : FileTree) (pieces : List String) : Option Place :=
  if ∃ piece ∈ pieces, '\x00' ∈ piece.toList then none
  else t.descend (if pieces.head? = some "" then [] else t.workingDirectory) pieces

section

variable {t : FileTree} {name path : String} {pieces : List String} {place : Place}

/-- What one name does on the way, when it is no dot: it stands at the end, or for a directory. -/
theorem walk_cons_eq_ok {start : Place} {names : List String} (hdot : name ≠ ".")
    (hdots : name ≠ "..") :
    t.walk start (name :: names) = .ok place ↔
      name.utf8ByteSize ≤ longestName
        ∧ (names = [] ∧ place = start ++ [name]
          ∨ names ≠ [] ∧ t.entry? (start ++ [name]) = some .directory
            ∧ t.walk (start ++ [name]) names = .ok place) := by
  rw [walk, if_neg hdot, if_neg hdots]
  by_cases hlong : longestName < name.utf8ByteSize
  · simp [hlong, Nat.not_le.mpr hlong]
  rw [if_neg hlong]
  simp only [Nat.le_of_not_lt hlong, true_and, List.isEmpty_iff]
  by_cases hlast : names = []
  · simp [hlast, eq_comm]
  · cases hentry : t.entry? (start ++ [name]) with
    | none => simp [hlast]
    | some entry => cases entry <;> simp [hlast]

theorem descend_cons_eq_some {start : Place} {piece : String}
    (hloud : Path.isSilent piece = false) (hdots : piece ≠ "..") :
    t.descend start (piece :: pieces) = some place ↔
      piece.utf8ByteSize ≤ longestName ∧ t.entry? (start ++ [piece]) = some .directory
        ∧ t.descend (start ++ [piece]) pieces = some place := by
  rw [descend, hloud, if_neg Bool.false_ne_true, if_neg hdots]
  by_cases hlong : longestName < piece.utf8ByteSize
  · simp [hlong, Nat.not_le.mpr hlong]
  · rw [if_neg hlong]
    simp only [Nat.le_of_not_lt hlong, true_and]
    split
    · rename_i hdir
      simp [hdir]
    · rename_i hdir
      simp [hdir]

/-- Names lead to a name in the place to which the pieces in front of it lead. -/
theorem walk_eq_ok (hname : Path.IsPlain name) {start : Place} :
    t.walk start ((pieces ++ [name]).filter fun piece => !piece.isEmpty) = .ok place ↔
      ∃ dir, t.descend start pieces = some dir ∧ name.utf8ByteSize ≤ longestName
        ∧ place = dir ++ [name] := by
  have hne : name.isEmpty = false := by simp [hname.ne_empty]
  induction pieces generalizing start with
  | nil =>
    have hfilter : ([] ++ [name]).filter (fun piece => !piece.isEmpty) = [name] := by simp [hne]
    rw [hfilter, walk_cons_eq_ok hname.ne_dot hname.ne_dots]
    simp [descend]
  | cons piece pieces ih =>
    have hrest : (pieces ++ [name]).filter (fun piece => !piece.isEmpty) ≠ [] := by
      simp [List.filter_append, hne]
    rw [List.cons_append, List.filter_cons]
    by_cases hempty : piece = ""
    · subst hempty
      exact ih
    rw [if_pos (by simp [hempty])]
    by_cases hdot : piece = "."
    · subst hdot
      exact ih
    by_cases hdots : piece = ".."
    · subst hdots
      exact ih
    have hloud : Path.isSilent piece = false := by simp [Path.isSilent, hempty, hdot]
    rw [walk_cons_eq_ok hdot hdots]
    simp only [ih, descend_cons_eq_some hloud hdots, hrest, false_and, false_or, ne_eq,
      not_false_eq_true, true_and]
    constructor
    · rintro ⟨hshort, hdir, dir, h⟩
      exact ⟨dir, ⟨hshort, hdir, h.1⟩, h.2⟩
    · rintro ⟨dir, ⟨hshort, hdir, h⟩, h'⟩
      exact ⟨hshort, hdir, dir, h, h'⟩

/-- A path leads to a name in the place to which the pieces in front of it lead. -/
theorem locate_eq_ok (hname : Path.IsPlain name) (hsplit : Text.split '/' path = pieces ++ [name]) :
    t.locate path = .ok place ↔
      ∃ dir, t.directoryOf? pieces = some dir ∧ name.utf8ByteSize ≤ longestName
        ∧ place = dir ++ [name] := by
  have hne : path.isEmpty = false := by
    rw [String.isEmpty_eq_false_iff]
    rintro rfl
    rw [Text.split_of_notMem (s := "") List.not_mem_nil] at hsplit
    have hlast := congrArg List.getLast? hsplit
    rw [List.getLast?_concat] at hlast
    exact hname.ne_empty (Option.some.inj hlast).symm
  have hnull : path.toList.contains '\x00' = true ↔ ∃ piece ∈ pieces, '\x00' ∈ piece.toList := by
    rw [List.contains_iff_mem, ← Text.contains_of_mem_split (by decide), hsplit]
    simp [or_and_right, exists_or, hname.no_null]
  have habsolute : Path.isAbsolute path = true ↔ pieces.head? = some "" := by
    have hhead := Text.head?_split_eq_empty_iff (s := path)
    rw [hsplit] at hhead
    rw [Path.isAbsolute]
    cases pieces with
    | nil => simpa [hname.ne_empty, String.isEmpty_eq_false_iff.mp hne] using hhead
    | cons piece pieces => simpa [String.isEmpty_eq_false_iff.mp hne] using hhead.symm
  rw [locate, hne, if_neg Bool.false_ne_true, directoryOf?]
  by_cases hnulls : ∃ piece ∈ pieces, '\x00' ∈ piece.toList
  · rw [if_pos (hnull.mpr hnulls), if_pos hnulls]
    simp
  · rw [if_neg (mt hnull.mp hnulls), if_neg hnulls, names, hsplit]
    simp only [habsolute]
    exact walk_eq_ok hname

end

/-! ### Pieces that lead nowhere else -/

variable {t t' : FileTree}

theorem descend_append_silent {pieces silent : List String}
    (hsilent : ∀ piece ∈ silent, Path.isSilent piece = true) (place : Place) :
    t.descend place (pieces ++ silent) = t.descend place pieces := by
  induction pieces generalizing place with
  | nil =>
    induction silent with
    | nil => rfl
    | cons piece silent ih =>
      obtain ⟨hpiece, hsilent⟩ := List.forall_mem_cons.mp hsilent
      exact (if_pos hpiece).trans (ih hsilent)
  | cons piece pieces ih => simp only [List.cons_append, descend, ih]

theorem directoryOf?_append_silent {pieces silent : List String} (hne : pieces ≠ [])
    (hsilent : ∀ piece ∈ silent, Path.isSilent piece = true) :
    t.directoryOf? (pieces ++ silent) = t.directoryOf? pieces := by
  have hnull : (∃ piece ∈ pieces ++ silent, '\x00' ∈ piece.toList)
      ↔ ∃ piece ∈ pieces, '\x00' ∈ piece.toList := by
    refine ⟨fun ⟨piece, hmem, hnull⟩ => ⟨piece, ?_, hnull⟩, fun ⟨piece, hmem, hnull⟩ =>
      ⟨piece, List.mem_append_left silent hmem, hnull⟩⟩
    rcases List.mem_append.mp hmem with hmem | hmem
    · exact hmem
    · -- a silent piece is empty or a dot
      rcases Bool.or_eq_true_iff.mp (hsilent piece hmem) with hempty | hdot
      · rw [String.isEmpty_iff.mp hempty] at hnull
        cases hnull
      · rw [of_decide_eq_true hdot] at hnull
        exact absurd hnull (by decide)
  have hhead : (pieces ++ silent).head? = pieces.head? := by
    obtain ⟨first, rest, rfl⟩ := List.exists_cons_of_ne_nil hne
    rfl
  rw [directoryOf?, directoryOf?, descend_append_silent hsilent, hhead]
  simp only [hnull]

/-- What is dropped from the end of a path leads nowhere else. -/
theorem directoryOf?_dropSilent (ps : List String) :
    t.directoryOf? (Path.dropSilent ps).reverse = t.directoryOf? ps.reverse := by
  cases ps with
  | nil => rfl
  | cons piece ps =>
    obtain ⟨silent, heq, hsilent⟩ := Path.exists_dropSilent (piece :: ps)
    have hne := Path.dropSilent_ne_nil (List.cons_ne_nil piece ps)
    have hreverse := congrArg List.reverse heq
    rw [List.reverse_append] at hreverse
    rw [hreverse]
    refine (directoryOf?_append_silent (by simpa using hne) fun p hp => ?_).symm
    exact hsilent p (List.mem_reverse.mp hp)

/-! ### The two paths of a file -/

/-- A path into a directory leads to a name in the place of the directory. -/
theorem locate_join {dir name : String} (hname : Path.IsPlain name) {place : Place} :
    t.locate (Path.join dir name) = .ok place ↔
      ∃ q, t.directoryOf? (Path.lead dir) = some q ∧ name.utf8ByteSize ≤ longestName
        ∧ place = q ++ [name] :=
  locate_eq_ok hname (Path.split_join hname dir)

/-- A path that ends in a name does not say that a directory stands there. -/
theorem wantsDirectory_join {name : String} (hname : Path.IsPlain name) (dir : String) :
    wantsDirectory (Path.join dir name) = false := by
  rw [wantsDirectory, Bool.eq_false_iff]
  intro hends
  obtain ⟨before, heq⟩ := Text.endsWith_iff_append.mp hends
  have hsplit := Path.split_join hname dir
  rw [heq, ← String.append_empty (s := before ++ "/"), Text.split_append_slash] at hsplit
  have hlast := congrArg List.getLast? hsplit
  rw [List.getLast?_concat, Text.split_of_notMem (s := "") List.not_mem_nil,
    List.getLast?_concat] at hlast
  exact hname.ne_empty (Option.some.inj hlast).symm

theorem endsInName_join {name : String} (hname : Path.IsPlain name) (dir : String) :
    endsInName (Path.join dir name) = true := by
  have hlast : (names (Path.join dir name)).getLast? = some name := by
    rw [names, Path.split_join hname, List.filter_append]
    simp [hname.ne_empty]
  rw [endsInName, hlast]
  simp [hname.ne_dot, hname.ne_dots]

/-! ### Paths of directories -/

theorem isDirectory_iff : t.isDirectory path = true ↔
    ∃ place, t.locate path = .ok place ∧ t.entry? place = some .directory := by
  rw [isDirectory]
  cases t.locate path with
  | error fault => simp
  | ok place => simp

/-- Names that lead to a directory lead there over directories. -/
theorem descend_of_walk {pieces : List String} {start place : Place}
    (h : t.walk start (pieces.filter fun piece => !piece.isEmpty) = .ok place)
    (hdir : t.entry? place = some .directory) : t.descend start pieces = some place := by
  induction pieces generalizing start with
  | nil => rw [descend, Except.ok.inj h]
  | cons piece pieces ih =>
    rw [List.filter_cons] at h
    by_cases hempty : piece = ""
    · subst hempty
      exact ih h
    rw [if_pos (by simp [hempty])] at h
    by_cases hdot : piece = "."
    · subst hdot
      exact ih h
    by_cases hdots : piece = ".."
    · subst hdots
      exact ih h
    have hloud : Path.isSilent piece = false := by simp [Path.isSilent, hempty, hdot]
    obtain ⟨hshort, ⟨hlast, rfl⟩ | ⟨-, hentry, h⟩⟩ := (walk_cons_eq_ok hdot hdots).mp h
    · -- only empty pieces follow
      exact (descend_cons_eq_some hloud hdots).mpr ⟨hshort, hdir, ih (by rw [hlast]; rfl)⟩
    · exact (descend_cons_eq_some hloud hdots).mpr ⟨hshort, hentry, ih h⟩

/-- The pieces of a directory's path lead to it. -/
theorem directoryOf?_of_isDirectory {dir : String} (h : t.isDirectory dir = true) :
    ∃ q, t.directoryOf? (Path.lead dir) = some q := by
  obtain ⟨place, hplace, hdir⟩ := isDirectory_iff.mp h
  rw [locate] at hplace
  split at hplace
  · cases hplace
  rename_i hempty
  split at hplace
  · cases hplace
  rename_i hnull
  have hne : dir ≠ "" := by simpa using hempty
  obtain ⟨silent, hsplit, hlead, hsilent⟩ := Path.exists_split_eq_lead hne
  have habsolute : ((Text.split '/' dir).head? = some "") = (Path.isAbsolute dir = true) := by
    rw [Text.head?_split_eq_empty_iff, Path.isAbsolute, eq_false hne, false_or]
  have hstart : (if (Text.split '/' dir).head? = some "" then [] else t.workingDirectory)
      = if Path.isAbsolute dir then [] else t.workingDirectory :=
    ite_congr habsolute (fun _ => rfl) fun _ => rfl
  refine ⟨place, ?_⟩
  rw [← directoryOf?_append_silent hlead hsilent, ← hsplit, directoryOf?, if_neg, hstart]
  · exact descend_of_walk hplace hdir
  · rw [Text.contains_of_mem_split (by decide), ← List.contains_iff_mem]
    exact hnull

/-! ### Places of directories -/

/-- Two trees with directories in the same places, seen from the same one. -/
structure SameDirectories (t t' : FileTree) : Prop where
  workingDirectory : t'.workingDirectory = t.workingDirectory
  directory : ∀ place, t'.entry? place = some .directory ↔ t.entry? place = some .directory

theorem SameDirectories.trans {t'' : FileTree} (h : t.SameDirectories t')
    (h' : t'.SameDirectories t'') : t.SameDirectories t'' where
  workingDirectory := h'.workingDirectory.trans h.workingDirectory
  directory place := (h'.directory place).trans (h.directory place)

theorem SameDirectories.descend_eq (h : t.SameDirectories t') (place : Place)
    (pieces : List String) : t'.descend place pieces = t.descend place pieces := by
  induction pieces generalizing place with
  | nil => rfl
  | cons piece pieces ih => simp only [descend, h.directory, ih]

/-- Where pieces lead depends on nothing but where directories are. -/
theorem SameDirectories.directoryOf?_eq (h : t.SameDirectories t') (pieces : List String) :
    t'.directoryOf? pieces = t.directoryOf? pieces := by
  rw [directoryOf?, directoryOf?, h.descend_eq, h.workingDirectory]

end FileTree

namespace Emission

/-- The name under which a file of a name is written first. -/
def earlyName (name : String) : String := s!".{name}.tmp"

theorem toList_earlyName (name : String) :
    (earlyName name).toList = '.' :: name.toList ++ ['.', 't', 'm', 'p'] := by
  simp [earlyName, toString]

theorem utf8ByteSize_le_earlyName (name : String) :
    name.utf8ByteSize ≤ (earlyName name).utf8ByteSize := by
  simp only [earlyName, toString, String.utf8ByteSize_append]
  omega

theorem isPlain_earlyName {name : String} (hname : Path.IsPlain name) :
    Path.IsPlain (earlyName name) := by
  have hne {short : String} (hshort : short.toList.length ≤ 4) : earlyName name ≠ short := by
    rintro rfl
    rw [toList_earlyName] at hshort
    simp at hshort
  refine ⟨hne (by decide), hne (by decide), hne (by decide), ?_, ?_⟩
  · rw [toList_earlyName]
    simp [hname.no_slash]
  · rw [toList_earlyName]
    simp [hname.no_null]

/-- The path under which a file is written first, as a path into a directory. -/
theorem temporary_join {dir name : String} (hname : Path.IsPlain name) :
    temporary (Path.join dir name)
      = Path.join ((Path.parent? (Path.join dir name)).getD ".") (earlyName name) := by
  rw [temporary, Path.fileName?_join hname]
  rfl

/-- It leads to another name in the same place. -/
theorem locate_temporary {t : FileTree} {dir name : String} (hname : Path.IsPlain name)
    {place : Place} :
    t.locate (temporary (Path.join dir name)) = .ok place ↔
      ∃ q, t.directoryOf? (Path.lead dir) = some q
        ∧ (earlyName name).utf8ByteSize ≤ FileTree.longestName ∧ place = q ++ [earlyName name] := by
  rw [temporary_join hname, FileTree.locate_join (isPlain_earlyName hname),
    Path.lead_parent?_join hname, FileTree.directoryOf?_dropSilent, List.reverse_reverse]

end Emission

end Handover
