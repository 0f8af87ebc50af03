import Handover.StartCommand.Words
import Mathlib.Data.List.Forall2

/-!
# How words are written

A command is written as words with white space between them (`Written`), and a word as pieces: runs
of plain characters, runs in quotes, and substitutions. A piece that is kept as it stands does not
disturb what follows it, so words made of such pieces are split as they were written.

Not every piece is. Splitting counts a bracket as opened only behind a dollar sign, but as closed
wherever it stands, and it counts in single quotes too; and it looks for the end of a quoted run in
substitutions as well. Which pieces are kept is therefore stated for each kind (`Piece.Kept`), and
the others are exactly those that do not stay whole (`tokenize_written`).
-/

namespace Handover.StartCommand

/-! ## Pieces -/

/-- The brackets of a substitution. -/
inductive Bracket where
  | paren
  | brace
  deriving DecidableEq, Repr

def Bracket.opening : Bracket → Char
  | .paren => '('
  | .brace => '\x7b'

def Bracket.closing : Bracket → Char
  | .paren => ')'
  | .brace => '\x7d'

def isOpening (c : Char) : Bool := c = '(' || c = '\x7b'

def isClosing (c : Char) : Bool := c = ')' || c = '\x7d'

/-- A text whose brackets are balanced. -/
inductive Balanced : List Char → Prop
  | nil : Balanced []
  | char {c : Char} {cs : List Char} :
    isOpening c = false → isClosing c = false → Balanced cs → Balanced (c :: cs)
  | group {bracket : Bracket} {inside cs : List Char} :
    Balanced inside → Balanced cs →
    Balanced (bracket.opening :: (inside ++ bracket.closing :: cs))

/-- A substitution as it is written. -/
def Bracket.substitution (bracket : Bracket) (inside : List Char) : List Char :=
  '$' :: bracket.opening :: (inside ++ [bracket.closing])

/-- A text with substitutions in it. Outside them it has no double quote, and no dollar sign before
an opening bracket. -/
inductive Interpolated : List Char → Prop
  | nil : Interpolated []
  | char {c : Char} {cs : List Char} :
    c ≠ '"' → (c = '$' → ∀ next ∈ cs.head?, isOpening next = false) → Interpolated cs →
    Interpolated (c :: cs)
  | substitution {bracket : Bracket} {inside cs : List Char} :
    Balanced inside → Interpolated cs → Interpolated (bracket.substitution inside ++ cs)

/-- A text whose brackets all belong to substitutions. -/
inductive Nested : List Char → Prop
  | nil : Nested []
  | char {c : Char} {cs : List Char} :
    isOpening c = false → isClosing c = false → Nested cs → Nested (c :: cs)
  | substitution {bracket : Bracket} {inside cs : List Char} :
    Nested inside → Nested cs → Nested (bracket.substitution inside ++ cs)

/-- A part of a word. -/
inductive Piece where
  | plain (text : List Char)
  | single (text : List Char)
  | double (text : List Char)
  | substitution (bracket : Bracket) (inside : List Char)

namespace Piece

/-- How a piece is written. -/
def chars : Piece → List Char
  | .plain text => text
  | .single text => '\'' :: (text ++ ['\''])
  | .double text => '"' :: (text ++ ['"'])
  | .substitution bracket inside => bracket.substitution inside

/-- What a piece adds to its word. -/
def text : Piece → List Char
  | .plain text => text
  | .single text => text
  | .double text => text
  | .substitution bracket inside => bracket.substitution inside

/-- What may stand in a piece of each kind. -/
def WellFormed : Piece → Prop
  | .plain text => ∀ c ∈ text, Text.isBlank c = false ∧ isQuote c = false ∧ c ≠ '$'
  | .single text => '\'' ∉ text
  | .double text => Interpolated text
  | .substitution _ inside => Balanced inside

end Piece

/-- A word in its pieces, with nothing between them. -/
abbrev Word := List Piece

def Word.chars (word : Word) : List Char := word.flatMap Piece.chars

def Word.text (word : Word) : List Char := word.flatMap Piece.text

/-- Words with white space between them, and maybe around them. -/
inductive Written : List Word → List Char → Prop
  | nil : Written [] []
  | blank {c : Char} {words : List Word} {cs : List Char} :
    Text.isBlank c = true → Written words cs → Written words (c :: cs)
  | last {word : Word} : Written [word] word.chars
  | before {word : Word} {c : Char} {words : List Word} {cs : List Char} :
    Text.isBlank c = true → Written words cs →
    Written (word :: words) (word.chars ++ c :: cs)

/-! ## Counting substitutions -/

/-- The number of open substitutions and whether the last character was a dollar sign, one
character further on. A bracket opens one only behind a dollar sign, but closes one always. -/
def count (s : Nat × Bool) (c : Char) : Nat × Bool :=
  if isOpening c && s.2 then (s.1 + 1, false)
  else if isClosing c then (s.1 - 1, false)
  else (s.1, c = '$')

/-- The number of substitutions that are counted as open behind a text. -/
def openBehind (cs : List Char) : Nat := (cs.foldl count (0, false)).1

/-- Every blank and every quote in a text stands where a substitution is counted as open. -/
def Enclosed (s : Nat × Bool) : List Char → Prop
  | [] => True
  | c :: cs => ((Text.isBlank c || isQuote c) = true → 0 < s.1) ∧ Enclosed (count s c) cs

/-- Whether a piece stays whole. -/
def Piece.Kept : Piece → Prop
  | .plain _ => True
  -- the text leaves no substitution open
  | .single text => openBehind text = 0
  -- the substitutions in the text have no double quote in them
  | .double text => '"' ∉ text
  | .substitution bracket inside => Enclosed (0, false) (bracket.substitution inside)

theorem count_le (s : Nat × Bool) (c : Char) : (count s c).1 ≤ s.1 + 1 := by
  unfold count
  split
  · exact Nat.le_refl _
  · split
    · exact Nat.le_trans (Nat.sub_le _ _) (Nat.le_succ _)
    · exact Nat.le_succ _

theorem count_closing (s : Nat × Bool) (bracket : Bracket) :
    count s bracket.closing = (s.1 - 1, false) := by
  cases bracket <;> simp [count, Bracket.closing, isOpening, isClosing]

theorem count_dollar_opening (s : Nat × Bool) (bracket : Bracket) :
    count (count s '$') bracket.opening = (s.1 + 1, false) := by
  cases bracket <;> simp [count, Bracket.opening, isOpening, isClosing]

/-- A character that is no bracket leaves the number as it is. -/
theorem count_other {c : Char} (hopen : isOpening c = false) (hclose : isClosing c = false)
    (s : Nat × Bool) : count s c = (s.1, decide (c = '$')) := by
  simp [count, hopen, hclose]

/-- Balanced brackets close at least as many as they open. -/
theorem Balanced.foldl_count_le {cs : List Char} (h : Balanced cs) (s : Nat × Bool) :
    (cs.foldl count s).1 ≤ s.1 := by
  induction h generalizing s with
  | nil => exact Nat.le_refl _
  | char hopen hclose _ ih =>
    rw [List.foldl_cons, count_other hopen hclose]
    exact ih _
  | @group bracket inside cs _ _ ihinside ih =>
    rw [List.foldl_cons, List.foldl_append, List.foldl_cons, count_closing]
    have hopen := count_le s bracket.opening
    have hinside := ihinside (count s bracket.opening)
    have hrest := ih ((inside.foldl count (count s bracket.opening)).1 - 1, false)
    dsimp only at hrest
    omega

/-- No substitution is left open behind one with balanced brackets. -/
theorem Balanced.foldl_count_substitution {inside : List Char} (h : Balanced inside)
    (bracket : Bracket) (dollar : Bool) :
    (bracket.substitution inside).foldl count (0, dollar) = (0, false) := by
  rw [Bracket.substitution, List.foldl_cons, List.foldl_cons, count_dollar_opening,
    List.foldl_append, List.foldl_cons, count_closing, List.foldl_nil]
  have hinside := h.foldl_count_le (1, false)
  exact Prod.ext (Nat.sub_eq_zero_of_le hinside) rfl

theorem Interpolated.foldl_count {cs : List Char} (h : Interpolated cs) {dollar : Bool}
    (hnext : dollar = true → ∀ next ∈ cs.head?, isOpening next = false) :
    (cs.foldl count (0, dollar)).1 = 0 := by
  induction h generalizing dollar with
  | nil => rfl
  | @char c cs _ hdollar _ ih =>
    have hopen : (isOpening c && dollar) = false := by
      cases dollar with
      | false => rw [Bool.and_false]
      | true => rw [hnext rfl c rfl, Bool.false_and]
    rw [List.foldl_cons, count, hopen, if_neg Bool.false_ne_true]
    cases hclose : isClosing c with
    | true => exact ih nofun
    | false => exact ih fun hc => hdollar (of_decide_eq_true hc)
  | substitution hinside _ ih =>
    rw [List.foldl_append, hinside.foldl_count_substitution]
    exact ih nofun

theorem Nested.balanced {cs : List Char} (h : Nested cs) : Balanced cs := by
  induction h with
  | nil => exact .nil
  | char hopen hclose _ ih => exact .char hopen hclose ih
  | @substitution bracket inside cs _ _ ihinside ih =>
    rw [Bracket.substitution, List.cons_append, List.cons_append, List.append_assoc]
    exact .char (by decide) (by decide) (.group ihinside ih)

theorem enclosed_append {s : Nat × Bool} {cs cs' : List Char} :
    Enclosed s (cs ++ cs') ↔ Enclosed s cs ∧ Enclosed (cs.foldl count s) cs' := by
  induction cs generalizing s with
  | nil => simp [Enclosed]
  | cons c cs ih => rw [List.cons_append, Enclosed, Enclosed, ih, List.foldl_cons, and_assoc]

theorem enclosed_cons_of_pos {s : Nat × Bool} {c : Char} {cs : List Char} (hopen : 0 < s.1) :
    Enclosed s (c :: cs) ↔ Enclosed (count s c) cs := by
  rw [Enclosed]
  exact and_iff_right fun _ => hopen

/-- A substitution is itself enclosed when what stands in it is, and closes no other one. -/
theorem enclosed_substitution {s : Nat × Bool} {inside : List Char}
    (h : Enclosed (s.1 + 1, false) inside)
    (hcount : (inside.foldl count (s.1 + 1, false)).1 = s.1 + 1) (bracket : Bracket) :
    Enclosed s (bracket.substitution inside) := by
  have hopening : (Text.isBlank bracket.opening || isQuote bracket.opening) = false := by
    cases bracket <;> decide
  rw [Bracket.substitution, Enclosed, Enclosed, count_dollar_opening, enclosed_append,
    enclosed_cons_of_pos (by rw [hcount]; exact Nat.succ_pos _), hopening]
  exact ⟨fun hdollar => absurd hdollar (by decide), nofun, h, trivial⟩

/-- Where all brackets belong to substitutions, none of them closes the one around them. -/
theorem Nested.enclosed {cs : List Char} (h : Nested cs) (s : Nat × Bool) :
    (cs.foldl count s).1 = s.1 ∧ (0 < s.1 → Enclosed s cs) := by
  induction h generalizing s with
  | nil => exact ⟨rfl, fun _ => trivial⟩
  | char hopen hclose _ ih =>
    rw [List.foldl_cons, count_other hopen hclose]
    refine ⟨(ih _).1, fun hpos => (enclosed_cons_of_pos hpos).mpr ?_⟩
    rw [count_other hopen hclose]
    exact (ih _).2 hpos
  | @substitution bracket inside cs _ _ ihinside ih =>
    have hinside := ihinside (s.1 + 1, false)
    have hcount : (bracket.substitution inside).foldl count s = (s.1, false) := by
      rw [Bracket.substitution, List.foldl_cons, List.foldl_cons, count_dollar_opening,
        List.foldl_append, List.foldl_cons, count_closing, List.foldl_nil, hinside.1,
        Nat.add_sub_cancel]
    rw [List.foldl_append, hcount, enclosed_append, hcount]
    exact ⟨(ih _).1, fun hpos =>
      ⟨enclosed_substitution (hinside.2 (Nat.succ_pos _)) hinside.1 bracket, (ih _).2 hpos⟩⟩

/-! ## Reading pieces -/

namespace Mode

/-- The mode in a run between quotes, or outside of any. -/
def within (quote : Option Char) (s : Nat × Bool) : Mode where
  quote := quote
  depth := s.1
  dollar := s.2

theorem role_eq_text_iff {m : Mode} {c : Char} :
    m.role c = .text ↔ m.opensQuote c = false ∧ m.closesQuote c = false
      ∧ (Text.isBlank c = true → m.quote = none → m.depth ≠ 0) := by
  unfold role
  cases m.opensQuote c <;> cases m.closesQuote c <;> simp

/-- What becomes part of a word does no more than count. -/
theorem next_of_text {quote : Option Char} {s : Nat × Bool} {c : Char}
    (h : (within quote s).role c = .text) : (within quote s).next c = within quote (count s c) := by
  obtain ⟨hopens, hcloses, -⟩ := role_eq_text_iff.mp h
  have hnext : (within quote s).next c = if isOpening c && s.2 then within quote (s.1 + 1, false)
      else if isClosing c then within quote (s.1 - 1, false)
      else within quote (s.1, decide (c = '$')) := by
    rw [next, hopens, hcloses, if_neg Bool.false_ne_true, if_neg Bool.false_ne_true]
    rfl
  rw [hnext, count, apply_ite (within quote), apply_ite (within quote)]

/-- The characters that become parts of words. -/
def taken (m : Mode) : List Char → List Char
  | [] => []
  | c :: cs => if m.role c = .text then c :: (m.next c).taken cs else (m.next c).taken cs

/-- The mode behind a text. -/
def behind (m : Mode) (cs : List Char) : Mode := cs.foldl next m

theorem taken_sublist (m : Mode) (cs : List Char) : (m.taken cs).Sublist cs := by
  induction cs generalizing m with
  | nil => exact .slnil
  | cons c cs ih =>
    rw [taken]
    split
    · exact (ih _).cons_cons c
    · exact (ih _).cons c

theorem behind_append (m : Mode) (cs cs' : List Char) :
    m.behind (cs ++ cs') = (m.behind cs).behind cs' := List.foldl_append

theorem taken_append (m : Mode) (cs cs' : List Char) :
    m.taken (cs ++ cs') = m.taken cs ++ (m.behind cs).taken cs' := by
  induction cs generalizing m with
  | nil => rfl
  | cons c cs ih =>
    rw [List.cons_append, taken, taken, ih]
    split <;> rfl

/-- In a mode, characters are read without a gap: a text is taken from them, and they leave another
mode. -/
inductive Takes : Mode → List Char → List Char → Mode → Prop
  | nil {m : Mode} : Takes m [] [] m
  | mark {m m' : Mode} {c : Char} {cs text : List Char} :
    m.role c = .mark → Takes (m.next c) cs text m' → Takes m (c :: cs) text m'
  | text {m m' : Mode} {c : Char} {cs text : List Char} :
    m.role c = .text → Takes (m.next c) cs text m' → Takes m (c :: cs) (c :: text) m'

namespace Takes

variable {m m' m'' : Mode} {cs cs' text text' : List Char}

theorem append (h : Takes m cs text m') (h' : Takes m' cs' text' m'') :
    Takes m (cs ++ cs') (text ++ text') m'' := by
  induction h with
  | nil => exact h'
  | mark hrole _ ih => exact .mark hrole (ih h')
  | text hrole _ ih => exact .text hrole (ih h')

theorem scan_append (h : Takes m cs text m') (rest : List Char) :
    scan m (cs ++ rest) = (text ++ (scan m' rest).1, (scan m' rest).2) := by
  induction h with
  | nil => rfl
  | mark hrole _ ih =>
    rw [List.cons_append, scan, ih]
    simp only [hrole]
  | text hrole _ ih =>
    rw [List.cons_append, scan, ih]
    simp only [hrole, List.cons_append]

theorem taken_eq (h : Takes m cs text m') : m.taken cs = text := by
  induction h with
  | nil => rfl
  | mark hrole _ ih => rw [taken, if_neg (by rw [hrole]; exact nofun), ih]
  | text hrole _ ih => rw [taken, if_pos hrole, ih]

theorem behind_eq (h : Takes m cs text m') : m.behind cs = m' := by
  induction h with
  | nil => rfl
  | mark _ _ ih => exact ih
  | text _ _ ih => exact ih

end Takes

/-- Between quotes everything else is taken as it stands, whatever it is. -/
theorem takes_quoted {q : Char} {cs : List Char} (h : q ∉ cs) (s : Nat × Bool) :
    Takes (within (some q) s) cs cs (within (some q) (cs.foldl count s)) := by
  induction cs generalizing s with
  | nil => exact .nil
  | cons c cs ih =>
    rw [List.mem_cons, not_or] at h
    have hrole : (within (some q) s).role c = .text := by
      simp [role_eq_text_iff, opensQuote, closesQuote, within, h.1]
    refine .text hrole ?_
    rw [next_of_text hrole]
    exact ih h.2 (count s c)

/-- Outside of quotes it is taken as it stands when its blanks and its quotes are enclosed. -/
theorem takes_enclosed {cs : List Char} {s : Nat × Bool} (h : Enclosed s cs) :
    Takes (within none s) cs cs (within none (cs.foldl count s)) := by
  induction cs generalizing s with
  | nil => exact .nil
  | cons c cs ih =>
    have hrole : (within none s).role c = .text := by
      refine role_eq_text_iff.mpr ⟨?_, rfl, fun hblank _ => ?_⟩
      · cases hquote : isQuote c with
        | false => simp [opensQuote, hquote]
        | true =>
          have hopen := h.1 (by rw [hquote, Bool.or_true])
          simp [opensQuote, within, Nat.ne_of_gt hopen]
      · exact Nat.ne_of_gt (h.1 (by rw [hblank, Bool.true_or]))
    refine .text hrole ?_
    rw [next_of_text hrole]
    exact ih h.2

/-- A quote that is open is closed by another one, with the substitutions counted in it still
open. -/
theorem mark_closing {q : Char} {s : Nat × Bool} :
    (within (some q) s).role q = .mark ∧ (within (some q) s).next q = within none (s.1, false) := by
  simp [role, next, opensQuote, closesQuote, within]

theorem mark_opening {q : Char} (hquote : isQuote q = true) :
    ({} : Mode).role q = .mark ∧ ({} : Mode).next q = within (some q) (0, false) := by
  simp [role, next, opensQuote, within, hquote]

/-- A run in quotes up to its end. -/
theorem takes_open {q : Char} (hquote : isQuote q = true) {text : List Char} (h : q ∉ text) :
    Takes {} (q :: text) text (within (some q) (text.foldl count (0, false))) := by
  refine .mark (mark_opening hquote).1 ?_
  rw [(mark_opening hquote).2]
  exact takes_quoted h (0, false)

theorem takes_run {q : Char} (hquote : isQuote q = true) {text : List Char} (h : q ∉ text) :
    Takes {} (q :: (text ++ [q])) text (within none (openBehind text, false)) := by
  have hclose : Takes (within (some q) (text.foldl count (0, false))) [q] []
      (within none (openBehind text, false)) := by
    refine .mark mark_closing.1 ?_
    rw [mark_closing.2]
    exact .nil
  have hrun := (takes_open hquote h).append hclose
  rwa [List.append_nil] at hrun

theorem takes_plain {text : List Char}
    (h : ∀ c ∈ text, Text.isBlank c = false ∧ isQuote c = false ∧ c ≠ '$') :
    Takes {} text text {} := by
  induction text with
  | nil => exact .nil
  | cons c text ih =>
    obtain ⟨⟨hblank, hquote, hdollar⟩, hrest⟩ := List.forall_mem_cons.mp h
    have hrole : (within none (0, false)).role c = .text := by
      simp [role_eq_text_iff, opensQuote, closesQuote, within, hblank, hquote]
    have hcount : count (0, false) c = (0, false) := by
      simp [count, hdollar]
    refine .text hrole ?_
    have hnext := next_of_text hrole
    rw [hcount] at hnext
    exact hnext ▸ ih hrest

end Mode

open Mode

/-- A piece that is kept is taken as its text, and nothing is left open behind it. -/
theorem Piece.takes {piece : Piece} (hformed : piece.WellFormed) (hkept : piece.Kept) :
    Takes {} piece.chars piece.text {} := by
  cases piece with
  | plain text => exact takes_plain hformed
  | single text =>
    have hrun := takes_run (q := '\'') rfl hformed
    rwa [show openBehind text = 0 from hkept] at hrun
  | double text =>
    have hrun := takes_run (q := '"') rfl hkept
    rwa [show openBehind text = 0 from Interpolated.foldl_count hformed nofun] at hrun
  | substitution bracket inside =>
    have htakes := takes_enclosed hkept
    rwa [Balanced.foldl_count_substitution hformed] at htakes

/-! ## Reading words -/

theorem Word.takes {word : Word} (h : ∀ piece ∈ word, piece.WellFormed ∧ piece.Kept) :
    Takes {} word.chars word.text {} := by
  induction word with
  | nil => exact .nil
  | cons piece word ih =>
    obtain ⟨⟨hformed, hkept⟩, hrest⟩ := List.forall_mem_cons.mp h
    exact (Piece.takes hformed hkept).append (ih hrest)

theorem isQuote_iff {c : Char} : isQuote c = true ↔ c = '\'' ∨ c = '"' := by
  rw [isQuote, Bool.or_eq_true, decide_eq_true_eq, decide_eq_true_eq]

theorem no_bracket_of_isQuote {c : Char} (h : isQuote c = true) :
    isOpening c = false ∧ isClosing c = false := by
  rcases isQuote_iff.mp h with rfl | rfl <;> decide

theorem isQuote_of_isBlank {c : Char} (h : Text.isBlank c = true) : isQuote c = false := by
  refine Bool.eq_false_iff.mpr fun hquote => ?_
  rcases isQuote_iff.mp hquote with rfl | rfl <;> exact absurd h (by decide)

theorem isBlank_space : Text.isBlank ' ' = true := by decide

theorem role_blank {c : Char} (h : Text.isBlank c = true) :
    ({} : Mode).role c = .gap ∧ ({} : Mode).next c = {} := by
  have hdollar : c ≠ '$' := by
    rintro rfl
    revert h
    decide
  simp [role, next, opensQuote, closesQuote, isQuote_of_isBlank h, h, hdollar]

theorem finish_eq_filter (word : List Char) : finish word = [word].filter (· ≠ []) := by
  cases word <;> rfl

theorem wordsOf_blank {c : Char} (h : Text.isBlank c = true) (cs : List Char) :
    wordsOf (c :: cs) = wordsOf cs := by
  simp only [wordsOf, scan, (role_blank h).1, (role_blank h).2, finish, List.isEmpty_nil, if_true,
    List.nil_append]

theorem wordsOf_blanks (n : Nat) : wordsOf (List.replicate n ' ') = [] := by
  induction n with
  | zero => rfl
  | succ n ih => rw [List.replicate_succ, wordsOf_blank isBlank_space, ih]

/-- What is taken of a whole text is its word, whatever is left open. -/
theorem wordsOf_last {cs text : List Char} {m : Mode} (h : Takes {} cs text m) :
    wordsOf cs = finish text := by
  have hscan := h.scan_append []
  rw [List.append_nil] at hscan
  simp [wordsOf, hscan, scan]

/-- A word ends at a blank, and the words behind it are split as if it were not there. -/
theorem wordsOf_before {cs text : List Char} (h : Takes {} cs text {}) {c : Char}
    (hblank : Text.isBlank c = true) (rest : List Char) :
    wordsOf (cs ++ c :: rest) = finish text ++ wordsOf rest := by
  have hscan := h.scan_append (c :: rest)
  simp only [scan, (role_blank hblank).1, (role_blank hblank).2, List.append_nil] at hscan
  simp only [wordsOf, hscan]

/-- Words that are kept are split as they were written. -/
theorem Written.wordsOf_eq {words : List Word} {cs : List Char} (h : Written words cs)
    (hkept : ∀ word ∈ words, ∀ piece ∈ word, piece.WellFormed ∧ piece.Kept) :
    wordsOf cs = (words.map Word.text).filter (· ≠ []) := by
  induction h with
  | nil => rfl
  | blank hblank _ ih => rw [wordsOf_blank hblank, ih hkept]
  | @last word =>
    rw [wordsOf_last (Word.takes (hkept word List.mem_cons_self)), finish_eq_filter,
      List.map_singleton]
  | @before word c words cs hblank _ ih =>
    obtain ⟨hword, hrest⟩ := List.forall_mem_cons.mp hkept
    rw [wordsOf_before (Word.takes hword) hblank, ih hrest, finish_eq_filter, ← List.filter_append,
      List.map_cons, List.singleton_append]

/-! ## Pieces that do not stay whole -/

theorem flatten_finish (word : List Char) : (finish word).flatten = word := by
  cases word <;> simp [finish]

theorem flatten_scan (m : Mode) (cs : List Char) :
    (scan m cs).1 ++ (scan m cs).2.flatten = m.taken cs := by
  induction cs generalizing m with
  | nil => rfl
  | cons c cs ih =>
    rw [taken, ← ih (m.next c), scan]
    cases hrole : m.role c with
    | mark => rfl
    | gap => simp [flatten_finish]
    | text => rfl

/-- The words of a command are its characters less the blanks and quotes that are dropped. -/
theorem flatten_wordsOf (cs : List Char) : (wordsOf cs).flatten = ({} : Mode).taken cs := by
  rw [← flatten_scan, wordsOf, List.flatten_append, flatten_finish]

namespace Mode

/-- Only quotes are open between quotes. -/
theorem isQuote_of_behind {m : Mode} (hm : ∀ q, m.quote = some q → isQuote q = true)
    (cs : List Char) : ∀ q, (m.behind cs).quote = some q → isQuote q = true := by
  induction cs generalizing m with
  | nil => exact hm
  | cons c cs ih =>
    refine ih fun q hq => ?_
    unfold next at hq
    split at hq
    · rename_i hopens
      obtain rfl := Option.some.inj hq
      simp only [opensQuote, Bool.and_eq_true] at hopens
      exact hopens.1.1
    · split at hq
      · cases hq
      · split at hq
        · exact hm q hq
        · split at hq <;> exact hm q hq

/-- A blank is taken between quotes and in substitutions, and leaves them open. -/
theorem taken_blanks {quote : Option Char} (hquote : ∀ q, quote = some q → isQuote q = true)
    {depth : Nat} (hopen : ¬ (quote = none ∧ depth = 0)) (n : Nat) (dollar : Bool) :
    (within quote (depth, dollar)).taken (List.replicate n ' ') = List.replicate n ' ' := by
  induction n generalizing dollar with
  | zero => rfl
  | succ n ih =>
    have hrole : (within quote (depth, dollar)).role ' ' = .text := by
      refine role_eq_text_iff.mpr ⟨rfl, ?_, fun _ hnone hdepth => hopen ⟨hnone, hdepth⟩⟩
      refine decide_eq_false fun hblank => ?_
      exact absurd (hquote ' ' hblank) (by decide)
    rw [List.replicate_succ, taken, if_pos hrole, next_of_text hrole,
      count_other (by decide) (by decide), ih]

/-- What is taken as it stands has its blanks and its quotes enclosed. -/
theorem enclosed_of_taken {cs : List Char} {s : Nat × Bool}
    (h : (within none s).taken cs = cs) : Enclosed s cs := by
  induction cs generalizing s with
  | nil => trivial
  | cons c cs ih =>
    rw [taken] at h
    split at h
    · rename_i hrole
      obtain ⟨hopens, -, hgap⟩ := role_eq_text_iff.mp hrole
      rw [next_of_text hrole] at h
      refine ⟨fun hc => ?_, ih (List.cons.inj h).2⟩
      rcases Bool.or_eq_true_iff.mp hc with hblank | hquote
      · exact Nat.pos_of_ne_zero (hgap hblank rfl)
      · refine Nat.pos_of_ne_zero fun hzero => ?_
        simp [opensQuote, hquote, within, hzero] at hopens
    · have hle := ((within none s).next c).taken_sublist cs |>.length_le
      rw [h, List.length_cons] at hle
      omega

end Mode

/-- Where a text is taken from characters whatever stands behind them, nothing is left open. -/
theorem idle_of_apart {cs text : List Char}
    (h : ∀ rest, wordsOf (cs ++ ' ' :: rest) = finish text ++ wordsOf rest) :
    (({} : Mode).behind cs).quote = none ∧ (({} : Mode).behind cs).depth = 0
      ∧ ({} : Mode).taken cs = text := by
  have htaken (n : Nat) : ({} : Mode).taken cs
      ++ (({} : Mode).behind cs).taken (List.replicate (n + 1) ' ') = text := by
    have hflat := congrArg List.flatten (h (List.replicate n ' '))
    rwa [flatten_wordsOf, taken_append, wordsOf_blanks, List.append_nil, flatten_finish] at hflat
  generalize hm : ({} : Mode).behind cs = m at htaken ⊢
  have hquote : ∀ q, m.quote = some q → isQuote q = true := by
    rw [← hm]
    exact isQuote_of_behind (m := {}) (fun _ => nofun) cs
  by_cases hidle : m.quote = none ∧ m.depth = 0
  · obtain ⟨hnone, hzero⟩ := hidle
    have hrole : m.role ' ' = .gap := by
      simp [role, opensQuote, closesQuote, hnone, hzero, isQuote_of_isBlank isBlank_space,
        isBlank_space]
    have hgap : m.taken (List.replicate 1 ' ') = [] := by
      rw [List.replicate_one, taken, hrole, if_neg nofun, taken]
    have hnothing := htaken 0
    rw [hgap, List.append_nil] at hnothing
    exact ⟨hnone, hzero, hnothing⟩
  · -- one blank more behind the characters would be one more in the text
    have hblanks (n : Nat) : m.taken (List.replicate n ' ') = List.replicate n ' ' :=
      taken_blanks hquote hidle n m.dollar
    have hboth := (htaken 0).trans (htaken 1).symm
    rw [hblanks, hblanks] at hboth
    have hlength := congrArg List.length (List.append_cancel_left hboth)
    simp at hlength

/-- A quote behind which nothing is open is itself dropped. -/
theorem taken_quote {m : Mode} {q : Char} (hquote : isQuote q = true)
    (hnone : (m.next q).quote = none) (hzero : (m.next q).depth = 0) : m.taken [q] = [] := by
  by_cases hrole : m.role q = .text
  · obtain ⟨hopens, -, -⟩ := role_eq_text_iff.mp hrole
    have hnext : m.next q = within m.quote (count (m.depth, m.dollar) q) :=
      next_of_text (s := (m.depth, m.dollar)) hrole
    rw [count_other (no_bracket_of_isQuote hquote).1 (no_bracket_of_isQuote hquote).2] at hnext
    rw [hnext] at hnone hzero
    simp only [within] at hnone hzero
    simp [opensQuote, hquote, hnone, hzero] at hopens
  · rw [taken, if_neg hrole, taken]

/-- A piece that is read apart from whatever follows it is kept. -/
theorem Piece.kept_of_apart {piece : Piece} (hformed : piece.WellFormed)
    (h : ∀ rest, wordsOf (piece.chars ++ ' ' :: rest) = finish piece.text ++ wordsOf rest) :
    piece.Kept := by
  obtain ⟨hnone, hzero, htaken⟩ := idle_of_apart h
  cases piece with
  | plain text => trivial
  | single text =>
    rwa [Piece.chars, (takes_run rfl hformed).behind_eq] at hzero
  | double text =>
    intro hmem
    -- the first double quote in the text closes the run and is dropped, and so is the last one
    obtain ⟨run, rest, rfl, hrun⟩ := List.eq_append_cons_of_mem hmem
    have htakes := takes_run (q := '"') rfl hrun
    have hchars : (Piece.double (run ++ '"' :: rest)).chars
        = '"' :: (run ++ ['"']) ++ (rest ++ ['"']) := by simp [Piece.chars]
    rw [hchars, behind_append, htakes.behind_eq, behind_append] at hnone hzero
    rw [hchars, taken_append, htakes.taken_eq, htakes.behind_eq, taken_append] at htaken
    rw [taken_quote rfl hnone hzero, List.append_nil] at htaken
    have hlength := congrArg List.length (List.append_cancel_left htaken)
    have hle := ((within none (openBehind run, false)).taken_sublist rest).length_le
    rw [List.length_cons] at hlength
    omega
  | substitution bracket inside => exact enclosed_of_taken htaken

/-! ## Commands -/

/-- A command whose words are made of pieces that are kept is split into these words, less those
that are empty. The pieces that are kept are exactly those that stay whole, and leave alone,
whatever follows them; a substitution is one of them when all brackets in it belong to
substitutions. -/
theorem tokenize_written {written : List (List Word)} {parts : List String}
    (hwritten : List.Forall₂ (fun words part => Written words part.toList) written parts)
    (hformed : ∀ word ∈ written.flatten, ∀ piece ∈ word, piece.WellFormed) :
    ((∀ word ∈ written.flatten, ∀ piece ∈ word, piece.Kept) →
        tokenize parts = ((written.flatten.map Word.text).filter (· ≠ [])).map String.ofList)
      ∧ ∀ word ∈ written.flatten, ∀ piece ∈ word,
        (piece.Kept ↔
          ∀ rest, wordsOf (piece.chars ++ ' ' :: rest) = finish piece.text ++ wordsOf rest)
        ∧ ∀ bracket inside, piece = .substitution bracket inside → Nested inside → piece.Kept := by
  refine ⟨fun hkept => ?_, fun word hword piece hpiece => ⟨⟨fun hkept rest => ?_, ?_⟩, ?_⟩⟩
  · induction hwritten with
    | nil => rfl
    | @cons words part written parts hwords _ ih =>
      rw [List.flatten_cons, List.forall_mem_append] at hformed hkept
      have hboth : ∀ word ∈ words, ∀ piece ∈ word, piece.WellFormed ∧ piece.Kept :=
        fun word hword piece hpiece =>
          ⟨hformed.1 word hword piece hpiece, hkept.1 word hword piece hpiece⟩
      rw [tokenize, List.flatMap_cons, ← tokenize, ih hformed.2 hkept.2, partWords,
        hwords.wordsOf_eq hboth, List.flatten_cons, List.map_append, List.filter_append,
        List.map_append]
  · exact wordsOf_before (Piece.takes (hformed word hword piece hpiece) hkept) isBlank_space rest
  · exact Piece.kept_of_apart (hformed word hword piece hpiece)
  · rintro bracket inside rfl hnested
    exact enclosed_substitution ((hnested.enclosed _).2 Nat.one_pos) (hnested.enclosed _).1 bracket

theorem wellFormed_plain {text : List Char}
    (h : (text.all fun c => !Text.isBlank c && !isQuote c && c != '$') = true) :
    (Piece.plain text).WellFormed := by
  intro c hc
  simpa [and_assoc] using List.all_eq_true.mp h c hc

/-- The words of `--attrs="${A} b" --host=$(h ' ')`. -/
def hostWords : List Word := [
  [.plain "--attrs=".toList, .double (Bracket.brace.substitution ['A'] ++ [' ', 'b'])],
  [.plain "--host=".toList, .substitution .paren ['h', ' ', '\'', ' ', '\'']]]

theorem tokenize_hostWords :
    tokenize ["--attrs=\"$\x7bA\x7d b\" --host=$(h ' ')"]
      = ["--attrs=$\x7bA\x7d b", "--host=$(h ' ')"] := by
  have hwritten : Written hostWords "--attrs=\"$\x7bA\x7d b\" --host=$(h ' ')".toList :=
    .before (c := ' ') (by decide) .last
  have hdouble : Interpolated (Bracket.brace.substitution ['A'] ++ [' ', 'b']) :=
    .substitution (.char (by decide) (by decide) .nil)
      (.char (by decide) (by decide) (.char (by decide) (by decide) .nil))
  have hinside : Nested ['h', ' ', '\'', ' ', '\''] := by
    iterate 5 refine .char (by decide) (by decide) ?_
    exact .nil
  have hformed : ∀ word ∈ [hostWords].flatten, ∀ piece ∈ word, piece.WellFormed := by
    simp only [hostWords, List.flatten_cons, List.flatten_nil, List.append_nil,
      List.forall_mem_cons, List.not_mem_nil, false_implies, implies_true, and_true]
    exact ⟨⟨wellFormed_plain rfl, hdouble⟩, wellFormed_plain rfl, hinside.balanced⟩
  obtain ⟨hwhole, hkept⟩ := tokenize_written (.cons hwritten .nil) hformed
  rw [hwhole]
  · decide
  · have hquote : '"' ∉ Bracket.brace.substitution ['A'] ++ [' ', 'b'] := by decide
    simp only [hostWords, List.flatten_cons, List.flatten_nil, List.append_nil,
      List.forall_mem_cons, List.not_mem_nil, false_implies, implies_true, and_true] at hkept ⊢
    obtain ⟨-, -, -, hhost⟩ := hkept
    exact ⟨⟨trivial, hquote⟩, trivial, hhost .paren _ rfl hinside⟩

/-- It is not so that a substitution always stays whole: the first bracket that is closed in it is
taken for its end. -/
theorem not_always_whole :
    ¬ ∀ (words : List Word) (part : String), Written words part.toList →
      (∀ word ∈ words, ∀ piece ∈ word, piece.WellFormed) →
      tokenize [part] = ((words.map Word.text).filter (· ≠ [])).map String.ofList := by
  intro halways
  have hsum : Balanced ['8', ' ', '+', ' ', '8'] := by
    iterate 5 refine .char (by decide) (by decide) ?_
    exact .nil
  have hinside : Balanced "( (8 + 8) / 4 )".toList := by
    refine @Balanced.group .paren " (8 + 8) / 4 ".toList [] ?_ .nil
    refine .char (by decide) (by decide) (@Balanced.group .paren _ _ hsum ?_)
    iterate 5 refine .char (by decide) (by decide) ?_
    exact .nil
  have htokens := halways
    [[.plain "--cache=".toList, .substitution .paren "( (8 + 8) / 4 )".toList,
      .plain "GiB".toList], [.plain "--port=26257".toList]]
    "--cache=$(( (8 + 8) / 4 ))GiB --port=26257" (.before (c := ' ') (by decide) .last) ?_
  · revert htokens
    decide +kernel
  · simp only [List.forall_mem_cons, List.not_mem_nil, false_implies, implies_true, and_true]
    exact ⟨⟨wellFormed_plain rfl, hinside, wellFormed_plain rfl⟩, wellFormed_plain rfl⟩

end Handover.StartCommand
