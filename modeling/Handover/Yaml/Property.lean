import Handover.Yaml.FlowScalar

/-!
# Anchors, tags and directives
-/

namespace Handover.Yaml

/-! ## Anchors and aliases -/

/-- Read the name behind the indicator of an anchor or alias. -/
def anchorName (c : Cursor) : Except Fault (String × Cursor) :=
  let (name, stop) := (c.drop 1).span isWord
  let ends := blankNext stop.rest ||
    match stop.rest with
    | d :: _ => d ∈ ['?', ':', ',', ']', '}', '%', '@', '\x60']
    | [] => true
  if name.isEmpty || !ends then .error .badAnchor else .ok (String.ofList name, stop)

/-! ## Tags -/

/-- Whether a character may stand in a tag besides letters, digits and escapes. -/
def isTagMark (verbatim : Bool) (c : Char) : Bool :=
  c ∈ [';', '/', '?', ':', '@', '&', '=', '+', '$', '.', '!', '~', '*', '\'', '(', ')']
    || (verbatim && (c = ',' || c = '[' || c = ']'))

/-- The bytes of consecutive percent escapes, and how many characters they take. -/
def percentBytes : List Char → List UInt8 × Nat
  | '%' :: a :: b :: cs =>
    match Plain.readBase 16 [a, b] with
    | some n =>
      let (bytes, taken) := percentBytes cs
      (UInt8.ofNat n :: bytes, taken + 3)
    | none => ([], 0)
  | _ => ([], 0)

/-- The characters in reverse that come next in a tag, and the place after them. -/
def tagChars (verbatim : Bool) : Nat → List Char → Cursor → Except Fault (List Char × Cursor)
  | 0, out, c => .ok (out, c)
  | fuel + 1, out, c =>
    match c.rest with
    | d :: _ =>
      if d = '%' then
        let (bytes, taken) := percentBytes c.rest
        match String.fromUTF8? ⟨bytes.toArray⟩ with
        | some s =>
          if taken = 0 then .error .badTag
          else tagChars verbatim fuel (s.toList.reverse ++ out) (c.drop taken)
        | none => .error .badTag
      else if isWord d || isTagMark verbatim d then tagChars verbatim fuel (d :: out) (c.drop 1)
      else .ok (out, c)
    | [] => .ok (out, c)

/-- Read the end of a tag behind `head`, whose first exclamation mark is left out. -/
def tagSuffix (verbatim : Bool) (head : List Char) (c : Cursor) :
    Except Fault (String × Cursor) := do
  let (out, stop) ← tagChars verbatim (c.rest.length + 1) [] c
  if head.isEmpty && out.isEmpty then .error .badTag
  else .ok (String.ofList (head.drop 1 ++ out.reverse), stop)

/-- Read a tag handle: an exclamation mark, a name, and a second mark if there is one. -/
def tagHandle (c : Cursor) : Except Fault (List Char × Cursor) :=
  match c.rest with
  | '!' :: _ =>
    let (name, stop) := (c.drop 1).span isWord
    match stop.rest with
    | '!' :: _ => .ok ('!' :: name ++ ['!'], stop.drop 1)
    | _ => .ok ('!' :: name, stop)
  | _ => .error .badTag

/-- Whether a handle names a prefix: it has marks at both ends. -/
def isNamedHandle (handle : List Char) : Bool :=
  1 < handle.length && handle.getLast? == some '!'

/-- A tag as it is written: a handle and what follows it. A handle of no characters stands for
a tag that is spelled out. -/
structure TagText where
  handle : String
  suffix : String
  deriving DecidableEq, Repr

def tagText (c : Cursor) : Except Fault (TagText × Cursor) := do
  match c.rest with
  | '!' :: '<' :: _ =>
    let (suffix, stop) ← tagSuffix true [] (c.drop 2)
    match stop.rest with
    | '>' :: _ => .ok (⟨"", suffix⟩, stop.drop 1)
    | _ => .error .badTag
  | _ =>
    let (handle, stop) ← tagHandle c
    if isNamedHandle handle then
      let (suffix, stop) ← tagSuffix false [] stop
      .ok (⟨String.ofList handle, suffix⟩, stop)
    else
      let (suffix, stop) ← tagSuffix false handle stop
      if suffix = "" then .ok (⟨"", "!"⟩, stop) else .ok (⟨"!", suffix⟩, stop)

/-- Read a tag, which has to end at a blank, or at a comma within a flow collection. -/
def tag (inFlow : Bool) (c : Cursor) : Except Fault (TagText × Cursor) := do
  let (t, stop) ← tagText c
  if blankNext stop.rest || (inFlow && stop.rest.head? == some ',') then .ok (t, stop)
  else .error .badTag

/-! ## Directives -/

/-- A directive: a version, or a tag handle with the text it stands for. -/
inductive Directive where
  | version (major minor : Nat)
  | handle (name stem : String)
  deriving DecidableEq, Repr

/-- Read one part of a version number, of at most nine digits. -/
def versionPart (c : Cursor) : Except Fault (Nat × Cursor) :=
  let (digits, stop) := c.span Text.isDigit
  if digits.isEmpty || 9 < digits.length then .error .badDirective
  else .ok (Text.digitsValue digits, stop)

/-- Read the words of a directive, from its percent sign. -/
def directiveWords (c : Cursor) : Except Fault (Directive × Cursor) := do
  let (name, stop) := (c.drop 1).span isWord
  if !blankNext stop.rest then .error .badDirective
  else
    let args := stop.skip isSpace
    if name = ['Y', 'A', 'M', 'L'] then
      let (major, stop) ← versionPart args
      match stop.rest with
      | '.' :: _ =>
        let (minor, stop) ← versionPart (stop.drop 1)
        .ok (.version major minor, stop)
      | _ => .error .badDirective
    else if name = ['T', 'A', 'G'] then
      let (handle, stop) ← tagHandle args
      let ends := match stop.rest with
        | d :: _ => isSpace d
        | [] => false
      if !(isNamedHandle handle || handle = ['!']) || !ends then .error .badDirective
      else
        let (stem, stop) ← tagSuffix true [] (stop.skip isSpace)
        if blankNext stop.rest then .ok (.handle (String.ofList handle) stem, stop)
        else .error .badDirective
    else .error .badDirective

def directive (c : Cursor) : Except Fault (Directive × Cursor) := do
  let (d, stop) ← directiveWords c
  match stop.endOfLine? with
  | some stop => .ok (d, stop)
  | none => .error .badDirective

end Handover.Yaml
