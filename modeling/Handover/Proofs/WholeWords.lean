import Handover.Proofs.PassedOn
import Handover.Proofs.WordsWritten

/-!
# Words that stay whole

A word that is split off a command without quotes has every blank in a substitution
(`enclosed_of_mem_partWords`), and a word like that is split no further
(`partWords_of_enclosed`). So is a name put together with a value, when both are like that: what
the name leaves open only adds to what is open behind it (`Enclosed.mono`).

Where every word is a flag, or a flag with its value, the words say just that: no flag takes the
next one for its value (`reads_joined`, `reads_oneWord`).
-/

namespace Handover.StartCommand

/-! ## What is enclosed -/

/-- A character changes the number of open substitutions alike wherever it stands. -/
theorem count_mono {d d' : Nat} (hle : d ≤ d') (dollar : Bool) (c : Char) :
    (count (d, dollar) c).1 ≤ (count (d', dollar) c).1
      ∧ (count (d, dollar) c).2 = (count (d', dollar) c).2 := by
  unfold count
  split
  · exact ⟨Nat.succ_le_succ hle, rfl⟩
  · split
    · exact ⟨Nat.sub_le_sub_right hle 1, rfl⟩
    · exact ⟨hle, rfl⟩

/-- What is enclosed stays so when more substitutions are open in front of it. -/
theorem Enclosed.mono {cs : List Char} {d d' : Nat} {dollar : Bool} (hle : d ≤ d')
    (h : Enclosed (d, dollar) cs) : Enclosed (d', dollar) cs := by
  induction cs generalizing d d' dollar with
  | nil => trivial
  | cons c cs ih =>
    obtain ⟨hc, hcs⟩ := h
    obtain ⟨hcount, hdollar⟩ := count_mono hle dollar c
    refine ⟨fun hblank => Nat.lt_of_lt_of_le (hc hblank) hle, ?_⟩
    rw [show count (d, dollar) c = ((count (d, dollar) c).1, (count (d', dollar) c).2) from
      Prod.ext rfl hdollar] at hcs
    exact ih hcount hcs

/-- There is no blank and no quote in a text. -/
def Plain (cs : List Char) : Prop := ∀ c ∈ cs, Text.isBlank c = false ∧ isQuote c = false

instance : DecidablePred Plain := fun cs => List.decidableBAll _ cs

/-- A plain text is enclosed wherever it stands. -/
theorem enclosed_of_plain {cs : List Char} (h : Plain cs) (s : Nat × Bool) : Enclosed s cs := by
  induction cs generalizing s with
  | nil => trivial
  | cons c cs ih =>
    obtain ⟨⟨hblank, hquote⟩, hcs⟩ := List.forall_mem_cons.mp h
    refine ⟨fun hbreak => ?_, ih hcs _⟩
    rw [hblank, hquote] at hbreak
    cases hbreak

/-- A flag and its value with an equals sign between them. -/
def joined (e : String × String) : String := s!"{e.1}={e.2}"

theorem toList_joined (e : String × String) :
    (joined e).toList = e.1.toList ++ '=' :: e.2.toList := by
  simp [joined, toString]

theorem count_equals (s : Nat × Bool) : count s '=' = (s.1, false) :=
  count_other (by decide) (by decide) s

/-- A name and a value with an equals sign between them. -/
theorem enclosed_equals {s : Nat × Bool} {name value : List Char} :
    Enclosed s (name ++ '=' :: value) ↔
      Enclosed s name ∧ Enclosed ((name.foldl count s).1, false) value := by
  rw [enclosed_append, Enclosed, count_equals]
  refine and_congr_right fun _ => and_iff_right fun hblank => ?_
  exact absurd hblank (by decide)

theorem enclosed_joined {e : String × String} (hname : Enclosed (0, false) e.1.toList)
    (hvalue : Enclosed (0, false) e.2.toList) : Enclosed (0, false) (joined e).toList := by
  rw [toList_joined]
  exact enclosed_equals.mpr ⟨hname, hvalue.mono (Nat.zero_le _)⟩

/-! ## Splitting once more -/

theorem ne_of_isBlank {c c' : Char} (h : Text.isBlank c = true) (h' : Text.isBlank c' = false) :
    c ≠ c' := by
  rintro rfl
  cases h.symm.trans h'

namespace Mode

/-- A blank where nothing is open ends the word, and leaves nothing open. -/
theorem role_gap {c : Char} (h : Text.isBlank c = true) (dollar : Bool) :
    (within none (0, dollar)).role c = .gap
      ∧ (within none (0, dollar)).next c = within none (0, false) := by
  have hdollar : c ≠ '$' := ne_of_isBlank h (by decide)
  have hparen : c ≠ '(' := ne_of_isBlank h (by decide)
  have hbrace : c ≠ '\x7b' := ne_of_isBlank h (by decide)
  simp [role, next, within, opensQuote, closesQuote, isQuote_of_isBlank h, h, hdollar, hparen,
    hbrace]

/-- What is scanned of a text without quotes: the rest of the word that is open, and the words
behind it. -/
theorem enclosed_of_scan {cs : List Char} (hquotes : ∀ c ∈ cs, isQuote c = false)
    (s : Nat × Bool) :
    Enclosed s (scan (within none s) cs).1
      ∧ ∀ word ∈ (scan (within none s) cs).2, Enclosed (0, false) word := by
  induction cs generalizing s with
  | nil => exact ⟨trivial, nofun⟩
  | cons c cs ih =>
    obtain ⟨hquote, hquotes⟩ := List.forall_mem_cons.mp hquotes
    rw [scan]
    by_cases hgap : Text.isBlank c = true ∧ s.1 = 0
    · -- nothing is open at a gap, so that the next word begins as the first one does
      obtain ⟨depth, dollar⟩ := s
      obtain ⟨hblank, rfl⟩ := hgap
      obtain ⟨hrole, hnext⟩ := role_gap hblank dollar
      obtain ⟨hword, hwords⟩ := ih hquotes (0, false)
      simp only [hrole, hnext]
      refine ⟨trivial, List.forall_mem_append.mpr ⟨fun word hmem => ?_, hwords⟩⟩
      rw [finish_eq_filter] at hmem
      obtain rfl := List.mem_singleton.mp (List.mem_of_mem_filter hmem)
      exact hword
    · have hopens : (within none s).opensQuote c = false := by rw [opensQuote, hquote]; rfl
      have hrole : (within none s).role c = .text :=
        role_eq_text_iff.mpr ⟨hopens, rfl, fun hblank _ hzero => hgap ⟨hblank, hzero⟩⟩
      obtain ⟨hword, hwords⟩ := ih hquotes (count s c)
      simp only [hrole, next_of_text hrole]
      refine ⟨⟨fun hc => ?_, hword⟩, hwords⟩
      rw [hquote, Bool.or_false] at hc
      exact Nat.pos_of_ne_zero fun hzero => hgap ⟨hc, hzero⟩

end Mode

/-- The blanks in a word of a text without quotes stand in substitutions. -/
theorem enclosed_of_mem_partWords {part word : String}
    (hquotes : ∀ c ∈ part.toList, isQuote c = false) (h : word ∈ partWords part) :
    Enclosed (0, false) word.toList := by
  obtain ⟨cs, hcs, rfl⟩ := List.mem_map.mp h
  obtain ⟨hfirst, hrest⟩ := Mode.enclosed_of_scan hquotes (0, false)
  rw [String.toList_ofList]
  rcases List.mem_append.mp hcs with hcs | hcs
  · rw [finish_eq_filter] at hcs
    obtain rfl := List.mem_singleton.mp (List.mem_of_mem_filter hcs)
    exact hfirst
  · exact hrest cs hcs

/-- A word whose blanks and quotes stand in substitutions is a word by itself. -/
theorem partWords_of_enclosed {word : String} (hne : word ≠ "")
    (h : Enclosed (0, false) word.toList) : partWords word = [word] := by
  have hword : word.toList ≠ [] := by
    rwa [← String.toList_empty, Ne, String.toList_inj]
  rw [partWords, wordsOf_last (Mode.takes_enclosed h), finish_eq_filter,
    List.filter_cons_of_pos (by simpa using hword), List.filter_nil, List.map_singleton,
    String.ofList_toList]

theorem tokenize_of_whole {parts : List String} (h : ∀ part ∈ parts, partWords part = [part]) :
    tokenize parts = parts := by
  induction parts with
  | nil => rfl
  | cons part parts ih =>
    obtain ⟨hpart, hparts⟩ := List.forall_mem_cons.mp h
    rw [tokenize, List.flatMap_cons, ← tokenize, hpart, ih hparts, List.singleton_append]

/-! ## Flags as words -/

theorem isFlag_joined {e : String × String} : isFlag (joined e) = true ↔ isFlag e.1 = true := by
  rw [isFlag, isFlag, Text.startsWith_iff, Text.startsWith_iff, toList_joined]
  cases e.1.toList with
  | nil => simp
  | cons c cs => simp

/-- A flag with its value in one word is read as it stands. -/
theorem reads_joined {given : List (String × String)}
    (h : ∀ e ∈ given, isFlag e.1 = true ∧ '=' ∉ e.1.toList) : Reads (given.map joined) given := by
  induction given with
  | nil => exact .nil
  | cons e given ih =>
    obtain ⟨⟨hflag, hname⟩, hgiven⟩ := List.forall_mem_cons.mp h
    exact .joined (isFlag_joined.mpr hflag) hname (ih hgiven)

/-- A flag without a value may stand alone before another flag. -/
theorem reads_oneWord {entries read : List (String × String)} {words : List String}
    (h : ∀ e ∈ entries, isFlag e.1 = true ∧ '=' ∉ e.1.toList) (hread : Reads words read)
    (hnext : ∀ next ∈ words.head?, isFlag next = true) :
    Reads (entries.map oneWord ++ words) (entries ++ read)
      ∧ ∀ next ∈ (entries.map oneWord ++ words).head?, isFlag next = true := by
  induction entries with
  | nil => exact ⟨hread, hnext⟩
  | cons e entries ih =>
    obtain ⟨⟨hflag, hname⟩, hentries⟩ := List.forall_mem_cons.mp h
    obtain ⟨hrest, hhead⟩ := ih hentries
    obtain ⟨name, value⟩ := e
    rw [List.map_cons, List.cons_append, List.cons_append, List.head?_cons, oneWord]
    by_cases hvalue : value = ""
    · subst hvalue
      exact ⟨.alone hflag hname (.inr hhead) hrest, fun _ hhead => Option.some.inj hhead ▸ hflag⟩
    · have hjoined := isFlag_joined (e := (name, value)).mpr hflag
      rw [if_neg hvalue]
      exact ⟨.joined hjoined hname hrest, fun _ hhead => Option.some.inj hhead ▸ hjoined⟩

/-- The names that are read are flags without an equals sign. -/
theorem Reads.isFlag {words : List String} {read : List (String × String)} (h : Reads words read) :
    ∀ e ∈ read, StartCommand.isFlag e.1 = true ∧ '=' ∉ e.1.toList := by
  induction h with
  | nil => exact nofun
  | @joined name value _ _ hflag hname _ ih =>
    exact List.forall_mem_cons.mpr ⟨⟨isFlag_joined (e := (name, value)).mp hflag, hname⟩, ih⟩
  | apart hflag hname _ _ _ ih => exact List.forall_mem_cons.mpr ⟨⟨hflag, hname⟩, ih⟩
  | alone hflag hname _ _ ih => exact List.forall_mem_cons.mpr ⟨⟨hflag, hname⟩, ih⟩

/-- The words behind a first word that is a subcommand. -/
theorem follows_start (words : List String) : Follows ("start" :: words) words := by
  have hnone : ∀ word ∈ ([] : List String), word ∉ subcommands := nofun
  exact .subcommand hnone (by decide)

end Handover.StartCommand
