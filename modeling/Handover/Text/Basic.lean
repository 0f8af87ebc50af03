/-!
# Text as lists of characters

Splitting, trimming and searching, each defined by recursion on the characters and
offered on `String` by going through `toList`. Every piece that is cut out of a text
stays literally a part of it, so nothing here rewrites characters.
-/

namespace Handover.Text

/-! ## Splitting -/

/-- The runs between the occurrences of `sep`. There is always at least one run. -/
def splitChars (sep : Char) : List Char → List (List Char)
  | [] => [[]]
  | c :: cs =>
    if c = sep then [] :: splitChars sep cs
    else
      match splitChars sep cs with
      | [] => [[c]]
      | run :: runs => (c :: run) :: runs

/-- The characters before and after the first `sep`. -/
def cutFirstChars (sep : Char) : List Char → Option (List Char × List Char)
  | [] => none
  | c :: cs =>
    if c = sep then some ([], cs)
    else (cutFirstChars sep cs).map fun (before, after) => (c :: before, after)

/-- The characters before and after the last `sep`. -/
def cutLastChars (sep : Char) : List Char → Option (List Char × List Char)
  | [] => none
  | c :: cs =>
    match cutLastChars sep cs with
    | some (before, after) => some (c :: before, after)
    | none => if c = sep then some ([], cs) else none

/-- The pieces of `s` between the occurrences of `sep`. -/
def split (sep : Char) (s : String) : List String :=
  (splitChars sep s.toList).map String.ofList

/-- `s` cut at its first `sep`. -/
def cutFirst? (sep : Char) (s : String) : Option (String × String) :=
  (cutFirstChars sep s.toList).map fun (before, after) =>
    (String.ofList before, String.ofList after)

/-- `s` cut at its last `sep`. -/
def cutLast? (sep : Char) (s : String) : Option (String × String) :=
  (cutLastChars sep s.toList).map fun (before, after) => (String.ofList before, String.ofList after)

/-! ## The two ends of a text -/

/-- What follows `start` in `cs`, when `cs` begins with it. -/
def stripChars : List Char → List Char → Option (List Char)
  | [], cs => some cs
  | _ :: _, [] => none
  | p :: ps, c :: cs => if p = c then stripChars ps cs else none

/-- What follows `start` in `s`, when `s` begins with it. -/
def strip? (start s : String) : Option String :=
  (stripChars start.toList s.toList).map String.ofList

/-- Whether `s` begins with `start`. -/
def startsWith (s start : String) : Bool :=
  start.toList.isPrefixOf s.toList

/-- Whether `s` ends with `tail`. -/
def endsWith (s tail : String) : Bool :=
  tail.toList.isSuffixOf s.toList

/-- `cs` without the characters satisfying `p` at its end. -/
def dropEndWhile (p : Char → Bool) (cs : List Char) : List Char :=
  (cs.reverse.dropWhile p).reverse

/-- `s` without the slashes at its end. -/
def dropSlashes (s : String) : String :=
  String.ofList (dropEndWhile (· == '/') s.toList)

/-! ## Searching -/

/-- Whether `piece` occurs in `cs` as consecutive characters. -/
def hasInfix (piece : List Char) : List Char → Bool
  | [] => piece.isEmpty
  | c :: cs => piece.isPrefixOf (c :: cs) || hasInfix piece cs

/-- Whether `piece` occurs in `s`. -/
def contains (s piece : String) : Bool :=
  hasInfix piece.toList s.toList

/-- The texts in order with `sep` between neighbours. -/
def join (sep : String) (parts : List String) : String :=
  sep.intercalate parts

/-! ## Laws of splitting -/

theorem splitChars_ne_nil (sep : Char) (cs : List Char) : splitChars sep cs ≠ [] := by
  cases cs with
  | nil => simp [splitChars]
  | cons c cs =>
    rw [splitChars]
    split
    · simp
    · split <;> simp

theorem cutFirstChars_eq_some {sep : Char} {cs before after : List Char}
    (h : cutFirstChars sep cs = some (before, after)) :
    cs = before ++ sep :: after ∧ sep ∉ before := by
  induction cs generalizing before with
  | nil => simp [cutFirstChars] at h
  | cons c cs ih =>
    rw [cutFirstChars] at h
    split at h
    · rename_i hc
      simp only [Option.some.injEq, Prod.mk.injEq] at h
      obtain ⟨rfl, rfl⟩ := h
      simp [hc]
    · rename_i hc
      obtain ⟨⟨b, a⟩, hb, heq⟩ := Option.map_eq_some_iff.1 h
      simp only [Prod.mk.injEq] at heq
      obtain ⟨rfl, rfl⟩ := heq
      obtain ⟨h₁, h₂⟩ := ih hb
      exact ⟨by rw [h₁]; rfl, by
        rw [List.mem_cons, not_or]
        exact ⟨fun e => hc e.symm, h₂⟩⟩

theorem cutFirstChars_eq_none {sep : Char} {cs : List Char} :
    cutFirstChars sep cs = none ↔ sep ∉ cs := by
  induction cs with
  | nil => simp [cutFirstChars]
  | cons c cs ih =>
    rw [cutFirstChars]
    split
    · rename_i hc
      simp [hc]
    · rename_i hc
      rw [Option.map_eq_none_iff, ih, List.mem_cons, not_or]
      exact ⟨fun h => ⟨fun e => hc e.symm, h⟩, fun h => h.2⟩

theorem stripChars_eq_some_iff {start cs rest : List Char} :
    stripChars start cs = some rest ↔ cs = start ++ rest := by
  induction start generalizing cs with
  | nil => simp [stripChars, eq_comm]
  | cons p ps ih =>
    cases cs with
    | nil => simp [stripChars]
    | cons c cs =>
      rw [stripChars]
      split
      · rename_i hpc
        subst hpc
        rw [ih]
        simp
      · rename_i hpc
        simp only [List.cons_append, List.cons.injEq, not_and, reduceCtorEq, false_iff]
        exact fun e => absurd e.symm hpc

end Handover.Text
