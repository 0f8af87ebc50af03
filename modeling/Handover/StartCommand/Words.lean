import Handover.Text.Basic
import Handover.Text.Blank

/-!
# Words of a start command

A start command is split at white space as a shell splits it, but nothing is expanded: quotes
are removed, and a substitution `$(…)` or `${…}` stays whole, with every blank and quote in it.

One character at a time is given its role, which depends only on the open quote, the number of
open substitutions and whether the character follows a dollar sign.
-/

namespace Handover.StartCommand

/-- What the characters before a character have left open. -/
structure Mode where
  quote : Option Char := none
  depth : Nat := 0
  /-- Whether the last character was a dollar sign. -/
  dollar : Bool := false
  deriving DecidableEq, Repr, Inhabited

/-- What a character does. -/
inductive Role where
  /-- It opens or closes a quoted run and is no part of a word. -/
  | mark
  /-- It ends a word. -/
  | gap
  /-- It is a part of a word. -/
  | text
  deriving DecidableEq, Repr

def isQuote (c : Char) : Bool := c = '\'' || c = '"'

namespace Mode

/-- Whether a character opens a quoted run. Within a substitution it does not. -/
def opensQuote (m : Mode) (c : Char) : Bool := isQuote c && m.depth = 0 && m.quote = none

def closesQuote (m : Mode) (c : Char) : Bool := m.quote = some c

def role (m : Mode) (c : Char) : Role :=
  if m.opensQuote c || m.closesQuote c then .mark
  else if Text.isBlank c && m.quote = none && m.depth = 0 then .gap
  else .text

def next (m : Mode) (c : Char) : Mode :=
  if m.opensQuote c then { quote := some c, depth := m.depth }
  else if m.closesQuote c then { depth := m.depth }
  else if (c = '(' || c = '\x7b') && m.dollar then { quote := m.quote, depth := m.depth + 1 }
  else if c = ')' || c = '\x7d' then { quote := m.quote, depth := m.depth - 1 }
  else { quote := m.quote, depth := m.depth, dollar := c = '$' }

end Mode

/-- A word, unless it is empty. -/
def finish (word : List Char) : List (List Char) := if word.isEmpty then [] else [word]

/-- The rest of the word that is open, which may be empty, and the words behind it. -/
def scan (m : Mode) : List Char → List Char × List (List Char)
  | [] => ([], [])
  | c :: cs =>
    let (word, words) := scan (m.next c) cs
    match m.role c with
    | .mark => (word, words)
    | .gap => ([], finish word ++ words)
    | .text => (c :: word, words)

def wordsOf (cs : List Char) : List (List Char) :=
  let (word, words) := scan {} cs
  finish word ++ words

def partWords (part : String) : List String := (wordsOf part.toList).map String.ofList

/-- The words of a command that is given in parts; no word reaches over a part's end. -/
def tokenize (parts : List String) : List String := parts.flatMap partWords

def hasSubstitution (s : String) : Bool := Text.contains s "$(" || Text.contains s "$\x7b"

end Handover.StartCommand
