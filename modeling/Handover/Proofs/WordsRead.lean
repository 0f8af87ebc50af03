import Handover.StartCommand.Flags
import Mathlib.Data.List.Basic
import Mathlib.Data.List.TakeWhile

/-!
# How words are read

A start command is read as flags with their values. What the words behind the subcommand say is
stated as a relation, one rule for each form that a flag is given in, and the occurrences in words
are related to them and to nothing else (`reads_iff`).
-/

namespace Handover

namespace Text

/-- What is cut off before the first separator does not hold it. -/
theorem cutFirst?_eq_some_iff {sep : Char} {s before after : String} :
    cutFirst? sep s = some (before, after) ↔
      s.toList = before.toList ++ sep :: after.toList ∧ sep ∉ before.toList := by
  rw [cutFirst?, Option.map_eq_some_iff]
  constructor
  · rintro ⟨⟨b, a⟩, hcut, heq⟩
    obtain ⟨rfl, rfl⟩ := Prod.mk.inj heq
    simpa using cutFirstChars_eq_some hcut
  · rintro ⟨hs, hbefore⟩
    refine ⟨(before.toList, after.toList), ?_, by simp⟩
    rw [hs]
    generalize before.toList = cs at hbefore
    induction cs with
    | nil => simp [cutFirstChars]
    | cons c cs ih =>
      rw [List.mem_cons, not_or] at hbefore
      rw [List.cons_append, cutFirstChars, if_neg (Ne.symm hbefore.1), ih hbefore.2]
      rfl

theorem cutFirst?_eq_none_iff {sep : Char} {s : String} :
    cutFirst? sep s = none ↔ sep ∉ s.toList := by
  rw [cutFirst?, Option.map_eq_none_iff, cutFirstChars_eq_none]

end Text

namespace StartCommand

/-! ## Forms -/

/-- The words that flags are read from: those behind the first subcommand, or all when there is
none. -/
inductive Follows : List String → List String → Prop
  | subcommand {before words : List String} {sub : String} :
    (∀ word ∈ before, word ∉ subcommands) → sub ∈ subcommands →
    Follows (before ++ sub :: words) words
  | none {words : List String} : (∀ word ∈ words, word ∉ subcommands) → Follows words words

/-- Words as flags with their values. A word is cut at its first equals sign; a word without one
takes the next word for its value, unless it never takes one or the next word is a flag. -/
inductive Reads : List String → List (String × String) → Prop
  | nil : Reads [] []
  | joined {name value : String} {words : List String} {read : List (String × String)} :
    isFlag s!"{name}={value}" = true → '=' ∉ name.toList → Reads words read →
    Reads (s!"{name}={value}" :: words) ((name, value) :: read)
  | apart {name value : String} {words : List String} {read : List (String × String)} :
    isFlag name = true → '=' ∉ name.toList → name ∉ bareFlags → isFlag value = false →
    Reads words read → Reads (name :: value :: words) ((name, value) :: read)
  | alone {name : String} {words : List String} {read : List (String × String)} :
    isFlag name = true → '=' ∉ name.toList →
    (name ∈ bareFlags ∨ ∀ next ∈ words.head?, isFlag next = true) →
    Reads words read → Reads (name :: words) ((name, "") :: read)

theorem follows_iff {tokens words : List String} :
    Follows tokens words ↔ behindSubcommand tokens = words := by
  have hother {word : String} : (!subcommands.contains word) = true ↔ word ∉ subcommands := by
    simp
  constructor
  · rintro (⟨hbefore, hsub⟩ | hnone)
    · rw [behindSubcommand, List.dropWhile_append_of_pos fun w hw => hother.mpr (hbefore w hw),
        List.dropWhile_cons_of_neg (by simpa using hsub)]
    · rw [behindSubcommand, List.dropWhile_eq_nil_iff.mpr fun w hw => hother.mpr (hnone w hw)]
  · intro h
    rw [behindSubcommand] at h
    split at h
    · rename_i hnone
      subst h
      exact .none fun w hw => hother.mp (List.dropWhile_eq_nil_iff.mp hnone w hw)
    · rename_i sub rest hrest
      subst h
      have hsub := List.head?_dropWhile_not (fun word => !subcommands.contains word) tokens
      rw [hrest] at hsub
      rw [← List.takeWhile_append_dropWhile (p := fun word => !subcommands.contains word)
        (l := tokens), hrest]
      refine .subcommand (fun w hw => hother.mp ?_) (by simpa using hsub)
      exact List.mem_takeWhile_imp (p := fun word => !subcommands.contains word) hw

theorem Follows.unique {tokens words words' : List String} (h : Follows tokens words)
    (h' : Follows tokens words') : words = words' :=
  (follows_iff.mp h).symm.trans (follows_iff.mp h')

/-- A word with an equals sign is a name and a value. -/
theorem cutFirst?_joined_iff {word name value : String} :
    Text.cutFirst? '=' word = some (name, value) ↔
      word = s!"{name}={value}" ∧ '=' ∉ name.toList := by
  have hjoined : (s!"{name}={value}").toList = name.toList ++ '=' :: value.toList := by
    simp [toString]
  rw [Text.cutFirst?_eq_some_iff, ← hjoined, String.toList_inj]

/-! ## Occurrences by the form of the first word -/

theorem occurrences_joined {name value : String} {words : List String}
    (hflag : isFlag s!"{name}={value}" = true) (hname : '=' ∉ name.toList) :
    occurrences (s!"{name}={value}" :: words) = .flag name value :: occurrences words := by
  rw [occurrences.eq_def]
  simp only [hflag, Bool.not_true, Bool.false_eq_true, if_false,
    cutFirst?_joined_iff.mpr ⟨rfl, hname⟩]

theorem occurrences_apart {name value : String} {words : List String} (hflag : isFlag name = true)
    (hname : '=' ∉ name.toList) (hbare : name ∉ bareFlags) (hvalue : isFlag value = false) :
    occurrences (name :: value :: words) = .flag name value :: occurrences words := by
  rw [occurrences.eq_def]
  simp [hflag, Text.cutFirst?_eq_none_iff.mpr hname, hbare, hvalue]

theorem occurrences_alone {name : String} {words : List String} (hflag : isFlag name = true)
    (hname : '=' ∉ name.toList)
    (halone : name ∈ bareFlags ∨ ∀ next ∈ words.head?, isFlag next = true) :
    occurrences (name :: words) = .flag name "" :: occurrences words := by
  rw [occurrences.eq_def]
  simp only [hflag, Bool.not_true, Bool.false_eq_true, if_false, List.contains_iff_mem,
    Text.cutFirst?_eq_none_iff.mpr hname]
  by_cases hbare : name ∈ bareFlags
  · rw [if_pos hbare]
  · rw [if_neg hbare]
    have hnext := halone.resolve_left hbare
    cases words with
    | nil => rw [occurrences]
    | cons next words => simp only [hnext next rfl, if_true]

theorem flags_eq_cons {name value : String} {os : List Occurrence}
    {read : List (String × String)}
    (h : .flag name value :: os = read.map fun e => .flag e.1 e.2) :
    ∃ rest, read = (name, value) :: rest ∧ os = rest.map fun e => .flag e.1 e.2 := by
  cases read with
  | nil => cases h
  | cons e read =>
    obtain ⟨hhead, htail⟩ := List.cons.inj h
    obtain ⟨rfl, rfl⟩ := Occurrence.flag.inj hhead
    exact ⟨read, rfl, htail⟩

/-- Where every word belongs to a flag, the occurrences are what is read. -/
theorem reads_iff {words : List String} {read : List (String × String)} :
    Reads words read ↔ occurrences words = read.map fun e => .flag e.1 e.2 := by
  constructor
  · intro h
    induction h with
    | nil => rw [occurrences, List.map_nil]
    | joined hflag hname _ ih => rw [occurrences_joined hflag hname, ih, List.map_cons]
    | apart hflag hname hbare hvalue _ ih =>
      rw [occurrences_apart hflag hname hbare hvalue, ih, List.map_cons]
    | alone hflag hname halone _ ih => rw [occurrences_alone hflag hname halone, ih, List.map_cons]
  · intro h
    fun_induction occurrences words generalizing read with
    | case1 =>
      obtain rfl : read = [] := by simpa using h.symm
      exact .nil
    | case2 =>
      -- a word that belongs to no flag is an occurrence of its own kind
      cases read with
      | nil => cases h
      | cons => cases (List.cons.inj h).1
    | case3 word words hflag name value hcut ih =>
      obtain ⟨read, rfl, hrest⟩ := flags_eq_cons h
      obtain ⟨rfl, hname⟩ := cutFirst?_joined_iff.mp hcut
      exact .joined (by simpa using hflag) hname (ih hrest)
    | case4 word words hflag hcut hbare ih =>
      obtain ⟨read, rfl, hrest⟩ := flags_eq_cons h
      exact .alone (by simpa using hflag) (Text.cutFirst?_eq_none_iff.mp hcut)
        (.inl (List.contains_iff_mem.mp hbare)) (ih hrest)
    | case5 word hflag hcut hbare =>
      obtain ⟨read, rfl, hrest⟩ := flags_eq_cons h
      obtain rfl : read = [] := by simpa using hrest.symm
      exact .alone (by simpa using hflag) (Text.cutFirst?_eq_none_iff.mp hcut) (.inr nofun) .nil
    | case6 word hflag hcut hbare next rest hnext ih =>
      obtain ⟨read, rfl, hrest⟩ := flags_eq_cons h
      exact .alone (by simpa using hflag) (Text.cutFirst?_eq_none_iff.mp hcut)
        (.inr fun _ hhead => Option.some.inj hhead ▸ hnext) (ih hrest)
    | case7 word hflag hcut hbare value rest hvalue ih =>
      obtain ⟨read, rfl, hrest⟩ := flags_eq_cons h
      exact .apart (by simpa using hflag) (Text.cutFirst?_eq_none_iff.mp hcut)
        (by simpa using hbare) (by simpa using hvalue) (ih hrest)

/-- Words are read in one way. -/
theorem Reads.unique {words : List String} {read read' : List (String × String)}
    (h : Reads words read) (h' : Reads words read') : read = read' := by
  have hsame := (reads_iff.mp h).symm.trans (reads_iff.mp h')
  refine List.map_injective_iff.mpr (fun e e' he => ?_) hsame
  obtain ⟨hname, hvalue⟩ := Occurrence.flag.inj he
  exact Prod.ext hname hvalue

end StartCommand

end Handover
