import Handover.Yaml.Fault
import Handover.Yaml.ScalarText

/-!
# How a value is written

Collections are written in block style with two spaces of indentation; a sequence below a key
is not indented. A collection starts on the line of the indicator in front of it, and on a new
line behind a key or a tag. Lines are never folded.

Each entry is written as a chunk: the characters from the column of the collection on, with a
line break at the end and with further lines fully indented.
-/

namespace Handover.Yaml

namespace Value

/-! ## Values without a written form -/

/-- Whether a key starts a mapping of one entry or a tagged value. Such a key leaves a mapping
that has no other entry without a start. -/
def startsSingle : Value → Bool
  | .map [_] => true
  | .tagged _ _ => true
  | _ => false

mutual

/-- What keeps a value from being written, if anything does. `underTag` says whether a tag
stands right in front of it. -/
def unwritable (underTag : Bool) : Value → Option Fault
  | .seq items => unwritableItems items
  | .map entries =>
    if !underTag && entries.length = 1 && entries.any (fun e => e.1.startsSingle) then
      some .lostMapping
    else unwritableEntries entries
  | .tagged _ inner => if underTag then some .nestedTags else unwritable true inner
  | _ => none

def unwritableItems : List Value → Option Fault
  | [] => none
  | x :: xs => (unwritable false x).or (unwritableItems xs)

def unwritableEntries : List (Value × Value) → Option Fault
  | [] => none
  | (k, v) :: xs => ((unwritable false k).or (unwritable false v)).or (unwritableEntries xs)

end

/-! ## Scalars and tags -/

def isTagChar (c : Char) : Bool :=
  isWord c ||
    c ∈ [';', '/', '?', ':', '@', '&', '=', '+', '$', ',', '.', '~', '*', '\'', '(', ')', '[', ']']

/-- The text of a tag: other characters than those of a tag become percent escapes. -/
def tagContent (t : String) : List Char :=
  t.toList.flatMap fun c =>
    if isTagChar c then [c]
    else (toString c).toUTF8.toList.flatMap fun b => '%' :: hexDigits 2 b.toNat

/-- The written form of a tag. One that is a mark and no more is spelled out. -/
def writeTag (t : String) : List Char :=
  if t = "!" then ['!', '<'] ++ tagContent t ++ ['>'] else '!' :: tagContent t

/-- The written form of a scalar or an empty collection, which needs no lines of its own. -/
def inline? (simpleKey : Bool) (indent : Nat) : Value → Option (List Char)
  | .null => some ['n', 'u', 'l', 'l']
  | .bool true => some ['t', 'r', 'u', 'e']
  | .bool false => some ['f', 'a', 'l', 's', 'e']
  | .number n => some (writeNumber n)
  | .text s => some (writeText simpleKey indent s)
  | .seq [] => some ['[', ']']
  | .map [] => some ['{', '}']
  | _ => none

/-- A line break, unless the text ends with one. -/
def endLine (cs : List Char) : List Char :=
  if cs.getLast?.any isBreak then cs else cs ++ ['\n']

/-- How many bytes a value counts as a key on one line, if it can be one: a scalar on one line
or an empty collection. -/
def keyLength? : Value → Option Nat
  | .text s => if s.toList.any isBreak then none else some s.utf8ByteSize
  | .tagged t v => (keyLength? v).map (· + 1 + t.utf8ByteSize)
  | .seq [] => some 0
  | .map [] => some 0
  | .seq _ => none
  | .map _ => none
  | v => (inline? true 0 v).map List.length

/-- Whether a value is written as a key on one line: at most 128 bytes. -/
def isSimpleKey (v : Value) : Bool := (keyLength? v).any (· ≤ 128)

def writeSimpleKey : Value → List Char
  | .tagged t v => writeTag t ++ ' ' :: (inline? true 0 v).getD []
  | v => (inline? true 0 v).getD []

/-! ## Collections -/

/-- Chunks on lines of their own, at a column. -/
def onNewLines (column : Nat) (chunks : List (List Char)) : List Char :=
  chunks.flatMap fun c => spaces column ++ c

/-- Chunks of which the first one stands on the line that is already begun. -/
def onOpenLine (column : Nat) : List (List Char) → List Char
  | [] => []
  | c :: cs => c ++ onNewLines column cs

/-- A place for a value, behind what stands in front of it. -/
structure Slot where
  /-- Whether a collection starts on the line that is already begun. -/
  openLine : Bool
  /-- Whether a space has to come before a scalar or a tag. -/
  gap : Bool
  /-- The column of further lines of a scalar. -/
  textColumn : Nat
  /-- The column of a mapping. -/
  mapColumn : Nat
  /-- The column of a sequence. -/
  seqColumn : Nat
  /-- The column of a sequence below a tag. -/
  taggedSeqColumn : Nat

def Slot.document : Slot := ⟨true, false, 2, 0, 0, 0⟩

/-- The place of an item, behind the dash of a sequence at a column. -/
def Slot.item (column : Nat) : Slot :=
  ⟨true, false, column + 2, column + 2, column + 2, column + 2⟩

/-- The place of a key or value behind an indicator of its own, in a mapping at a column. -/
def Slot.marked (column : Nat) : Slot :=
  ⟨true, false, column + 2, column + 2, column + 2, column⟩

/-- The place of a value behind a key on one line, in a mapping at a column. -/
def Slot.afterKey (column : Nat) : Slot :=
  ⟨false, true, column + 2, column + 2, column, column⟩

def Slot.afterTag (s : Slot) : Slot :=
  { s with openLine := false, gap := true, seqColumn := s.taggedSeqColumn }

/-- A space, where the place needs one. -/
def Slot.lead (s : Slot) : List Char := if s.gap then [' '] else []

def Slot.collection (s : Slot) (column : Nat) (chunks : List (List Char)) : List Char :=
  if s.openLine then onOpenLine column chunks else '\n' :: onNewLines column chunks

mutual

/-- A value in a place, with the line break at its end. -/
def writeIn (s : Slot) : Value → List Char
  | .tagged t v => s.lead ++ writeTag t ++ writeIn s.afterTag v
  | .seq (x :: xs) => s.collection s.seqColumn (seqChunks s.seqColumn (x :: xs))
  | .map (e :: es) => s.collection s.mapColumn (mapChunks s.mapColumn (e :: es))
  | v => s.lead ++ endLine ((inline? false s.textColumn v).getD [])

def seqChunks (column : Nat) : List Value → List (List Char)
  | [] => []
  | x :: xs => ('-' :: ' ' :: writeIn (.item column) x) :: seqChunks column xs

def mapChunks (column : Nat) : List (Value × Value) → List (List Char)
  | [] => []
  | (k, v) :: es =>
    (if isSimpleKey k then writeSimpleKey k ++ ':' :: writeIn (.afterKey column) v
      else '?' :: ' ' :: writeIn (.marked column) k ++
        spaces column ++ ':' :: ' ' :: writeIn (.marked column) v) :: mapChunks column es

end

/-! ## Documents -/

/-- The written form of a document, unless it has none. -/
def write (v : Value) : Except Fault String :=
  match unwritable false v with
  | some fault => .error fault
  | none => .ok (String.ofList (v.writeIn .document))

end Value

end Handover.Yaml
