import Handover.Proofs.Inspection

/-!
# Characters that are kept

Splitting drops nothing but blanks and quotes: what stands between them comes through in its
order, whatever is left open (`Mode.solid_taken`). Words are parted by blanks only: where the words
of a part are divided in two, the part has a blank whose two sides are split into just these words
(`exists_blank_of_wordsOf`). Without quotes nothing but blanks is dropped
(`tokenize_keepsCharacters`).
-/

namespace Handover.StartCommand

/-- The characters of texts, one text after the other. -/
def characters (texts : List String) : List Char := texts.flatMap String.toList

/-- What is left of a text without its blanks and its quotes. -/
def solid (cs : List Char) : List Char := cs.filter fun c => !Text.isBlank c && !isQuote c

namespace Mode

/-! ## What is dropped -/

/-- What is no part of a word is a blank or a quote. -/
theorem isBreak_of_role {m : Mode} (hm : ∀ q, m.quote = some q → isQuote q = true) {c : Char}
    (h : m.role c ≠ .text) : (!Text.isBlank c && !isQuote c) = false := by
  rw [← Bool.not_or, Bool.not_eq_false', Bool.or_eq_true]
  by_contra hnone
  obtain ⟨hblank, hquote⟩ := not_or.mp hnone
  refine h (role_eq_text_iff.mpr ⟨?_, ?_, fun hc => absurd hc hblank⟩)
  · rw [opensQuote, Bool.eq_false_iff.mpr hquote]
    rfl
  · exact decide_eq_false fun hc => hquote (hm c hc)

theorem solid_taken {m : Mode} (hm : ∀ q, m.quote = some q → isQuote q = true) (cs : List Char) :
    solid (m.taken cs) = solid cs := by
  induction cs generalizing m with
  | nil => rfl
  | cons c cs ih =>
    have hnext : solid ((m.next c).taken cs) = solid cs := ih (isQuote_of_behind hm [c])
    rw [solid] at hnext
    rw [taken, solid, solid]
    by_cases hrole : m.role c = .text
    · rw [if_pos hrole, List.filter_cons, List.filter_cons, hnext, solid]
    · rw [if_neg hrole, hnext, solid, List.filter_cons, isBreak_of_role hm hrole,
        if_neg Bool.false_ne_true]

/-! ## What parts words -/

/-- A gap is a blank where nothing is open. -/
theorem role_eq_gap {m : Mode} {c : Char} (h : m.role c = .gap) :
    Text.isBlank c = true ∧ m = within none (0, m.dollar) := by
  obtain ⟨quote, depth, dollar⟩ := m
  unfold role at h
  split at h
  · cases h
  · split at h
    · rename_i hgap
      simp only [Bool.and_eq_true, decide_eq_true_eq] at hgap
      obtain ⟨⟨hblank, rfl⟩, rfl⟩ := hgap
      exact ⟨hblank, rfl⟩
    · cases h

end Mode

/-- Where words are divided in two behind the first one, that is found in the rest. -/
theorem divide_finish {word : List Char} {words us vs : List (List Char)}
    (h : finish word ++ words = us ++ vs) (hus : us ≠ []) :
    ∃ us', us = finish word ++ us' ∧ words = us' ++ vs := by
  cases word with
  | nil => exact ⟨us, rfl, h⟩
  | cons c word =>
    obtain ⟨u, us, rfl⟩ := List.exists_cons_of_ne_nil hus
    obtain ⟨rfl, hwords⟩ := List.cons.inj h
    exact ⟨us, rfl, hwords⟩

/-- Where the words behind the open one are divided in two, a blank divides the text: in front of it
the word that is open ends as before, and behind it nothing is open. -/
theorem exists_blank_of_scan {m : Mode} {cs : List Char} {us vs : List (List Char)}
    (h : (scan m cs).2 = us ++ vs) (hvs : vs ≠ []) :
    ∃ before blank after, cs = before ++ blank :: after ∧ Text.isBlank blank = true
      ∧ scan m before = ((scan m cs).1, us) ∧ wordsOf after = vs := by
  induction cs generalizing m us with
  | nil => exact absurd (List.append_eq_nil_iff.mp h.symm).2 hvs
  | cons c cs ih =>
    rw [scan] at h ⊢
    cases hrole : m.role c with
    | mark =>
      simp only [hrole] at h
      obtain ⟨before, blank, after, rfl, hblank, hbefore, hafter⟩ := ih h
      refine ⟨c :: before, blank, after, rfl, hblank, ?_, hafter⟩
      simp only [scan, hrole, hbefore]
    | text =>
      simp only [hrole] at h
      obtain ⟨before, blank, after, rfl, hblank, hbefore, hafter⟩ := ih h
      refine ⟨c :: before, blank, after, rfl, hblank, ?_, hafter⟩
      simp only [scan, hrole, hbefore]
    | gap =>
      obtain ⟨hblank, hm⟩ := Mode.role_eq_gap hrole
      have hnext : m.next c = {} := by
        rw [hm]
        exact (Mode.role_gap hblank m.dollar).2
      simp only [hrole, hnext] at h
      by_cases hus : us = []
      · -- the gap itself divides the words
        subst hus
        exact ⟨[], c, cs, rfl, hblank, rfl, h⟩
      · obtain ⟨us', rfl, hwords⟩ := divide_finish h hus
        obtain ⟨before, blank, after, rfl, hblank', hbefore, hafter⟩ := ih hwords
        refine ⟨c :: before, blank, after, rfl, hblank', ?_, hafter⟩
        simp only [scan, hrole, hnext, hbefore]

/-- Words are parted by a blank, on both sides of which they are split as they are. -/
theorem exists_blank_of_wordsOf {cs : List Char} {us vs : List (List Char)}
    (h : wordsOf cs = us ++ vs) (hus : us ≠ []) (hvs : vs ≠ []) :
    ∃ before blank after, cs = before ++ blank :: after ∧ Text.isBlank blank = true
      ∧ wordsOf before = us ∧ wordsOf after = vs := by
  obtain ⟨us', rfl, hwords⟩ := divide_finish h hus
  obtain ⟨before, blank, after, rfl, hblank, hbefore, hafter⟩ := exists_blank_of_scan hwords hvs
  refine ⟨before, blank, after, rfl, hblank, ?_, hafter⟩
  rw [wordsOf, hbefore]

theorem exists_blank_of_partWords {part : String} {us vs : List String}
    (h : partWords part = us ++ vs) (hus : us ≠ []) (hvs : vs ≠ []) :
    ∃ before blank after, part.toList = before ++ blank :: after ∧ Text.isBlank blank = true
      ∧ partWords (String.ofList before) = us ∧ partWords (String.ofList after) = vs := by
  obtain ⟨us', vs', hwords, rfl, rfl⟩ := List.map_eq_append_iff.mp h
  obtain ⟨before, blank, after, hpart, hblank, hbefore, hafter⟩ := exists_blank_of_wordsOf hwords
    (by rintro rfl; exact hus rfl) (by rintro rfl; exact hvs rfl)
  refine ⟨before, blank, after, hpart, hblank, ?_, ?_⟩
  · rw [partWords, String.toList_ofList, hbefore]
  · rw [partWords, String.toList_ofList, hafter]

/-! ## Commands -/

theorem characters_tokenize (parts : List String) :
    characters (tokenize parts) = parts.flatMap fun part => ({} : Mode).taken part.toList := by
  rw [characters, tokenize, List.flatMap_assoc]
  refine List.flatMap_congr fun part _ => ?_
  rw [← flatten_wordsOf, partWords, List.flatMap_map, List.flatMap_def]
  simp only [String.toList_ofList, List.map_id']

theorem solid_characters_tokenize (parts : List String) :
    solid (characters (tokenize parts)) = solid (characters parts) := by
  rw [characters_tokenize, characters, solid, solid, List.filter_flatMap, List.filter_flatMap]
  exact List.flatMap_congr fun part _ => Mode.solid_taken (m := {}) (fun _ => nofun) part.toList

/-- The characters of the words are some of those of the command, in their order. -/
theorem characters_tokenize_sublist (parts : List String) :
    (characters (tokenize parts)).Sublist (characters parts) := by
  rw [characters_tokenize]
  induction parts with
  | nil => exact .slnil
  | cons part parts ih => exact (Mode.taken_sublist {} part.toList).append ih

/-- Without quotes, what is left is what is left without blanks. -/
theorem solid_of_noQuotes {cs : List Char} (h : ∀ c ∈ cs, isQuote c = false) :
    solid cs = cs.filter fun c => !Text.isBlank c := by
  refine List.filter_congr fun c hc => ?_
  rw [h c hc, Bool.not_false, Bool.and_true]

/-- No word is empty, and the words of a command have all its characters in their order, less some
blanks and quotes; without quotes, less some blanks. Two words of one part that follow each other
have a blank of the part between them: what stands in front of it is split into the one word and
those before it, and what stands behind it into the other one and those after it. -/
theorem tokenize_keepsCharacters (parts : List String) :
    (∀ word ∈ tokenize parts, word ≠ "")
      ∧ solid (characters (tokenize parts)) = solid (characters parts)
      ∧ (characters (tokenize parts)).Sublist (characters parts)
      ∧ ((∀ c ∈ characters parts, isQuote c = false) →
        (characters (tokenize parts)).filter (fun c => !Text.isBlank c)
          = (characters parts).filter fun c => !Text.isBlank c)
      ∧ ∀ part ∈ parts, ∀ front word next rest,
        partWords part = front ++ word :: next :: rest →
        ∃ before blank after, part.toList = before ++ blank :: after ∧ Text.isBlank blank = true
          ∧ partWords (String.ofList before) = front ++ [word]
          ∧ partWords (String.ofList after) = next :: rest := by
  have hsolid := solid_characters_tokenize parts
  have hsublist := characters_tokenize_sublist parts
  refine ⟨fun word hword => ?_, hsolid, hsublist, fun hquotes => ?_,
    fun part _ front word next rest hwords => ?_⟩
  · obtain ⟨part, -, hword⟩ := List.mem_flatMap.mp hword
    exact ne_empty_of_mem_partWords hword
  · have hquotes' : ∀ c ∈ characters (tokenize parts), isQuote c = false :=
      fun c hc => hquotes c (hsublist.subset hc)
    rwa [solid_of_noQuotes hquotes', solid_of_noQuotes hquotes] at hsolid
  · rw [List.append_cons] at hwords
    exact exists_blank_of_partWords hwords (by simp) (List.cons_ne_nil next rest)

/-- A command that ends within a substitution keeps the blanks in it. -/
theorem tokenize_openEnded :
    (∀ c ∈ characters ["--x \t$(y  z", "--w"], isQuote c = false)
      ∧ partWords "--x \t$(y  z" = ["--x", "$(y  z"]
      ∧ solid (characters (tokenize ["--x \t$(y  z", "--w"])) = "--x$(yz--w".toList
      ∧ ∃ before blank after, "--x \t$(y  z".toList = before ++ blank :: after
        ∧ Text.isBlank blank = true ∧ partWords (String.ofList before) = ["--x"]
        ∧ partWords (String.ofList after) = ["$(y  z"] := by
  have hwords : partWords "--x \t$(y  z" = ["--x", "$(y  z"] := by decide +kernel
  have hquotes : ∀ c ∈ characters ["--x \t$(y  z", "--w"], isQuote c = false := by
    have hall : (characters ["--x \t$(y  z", "--w"]).all (fun c => !isQuote c) = true := by decide
    exact fun c hc => by simpa using List.all_eq_true.mp hall c hc
  obtain ⟨-, -, -, hkept, hparted⟩ := tokenize_keepsCharacters ["--x \t$(y  z", "--w"]
  have hsolid : (characters ["--x \t$(y  z", "--w"]).filter (fun c => !Text.isBlank c)
      = "--x$(yz--w".toList := by decide
  refine ⟨hquotes, hwords, ?_, hparted _ List.mem_cons_self [] "--x" "$(y  z" [] hwords⟩
  rw [solid_of_noQuotes, hkept hquotes, hsolid]
  exact fun c hc => hquotes c ((characters_tokenize_sublist _).subset hc)

end Handover.StartCommand
