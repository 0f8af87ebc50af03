import Handover.Yaml.BlockScalar
import Handover.Yaml.Property

/-!
# The tokens of a stream

The text is cut into tokens in which the indentation of block collections has become explicit:
a start token where a deeper column begins a collection, and an end token for each collection
that a shallower column leaves.

A key of a block mapping without an indicator is recognised only at the colon behind it. So
each place where such a key may start is remembered, one per enclosing flow collection, and at
the colon a key token is put in front of the token that stood there.
-/

namespace Handover.Yaml

/-- A token. The end of the stream is the end of the list of tokens. -/
inductive Token where
  | directive (d : Directive)
  | documentStart
  | documentEnd
  | blockSeqStart
  | blockMapStart
  | blockEnd
  | flowSeqStart
  | flowSeqEnd
  | flowMapStart
  | flowMapEnd
  | blockEntry
  | flowEntry
  | key
  | value
  | alias (name : String)
  | anchor (name : String)
  | tag (t : TagText)
  | scalar (text : String) (isPlain : Bool)
  deriving DecidableEq, Repr

/-- A place where a key without an indicator may have started. -/
structure KeyPlace where
  /-- Whether a colon has to follow, since only a key can stand there. -/
  required : Bool
  /-- How many tokens stand in front of it. -/
  tokens : Nat
  mark : Mark
  deriving Repr

/-- Tokens with their number. -/
structure TokenLine where
  /-- The last token first. -/
  items : List Token := []
  size : Nat := 0
  deriving Repr

namespace TokenLine

def push (l : TokenLine) (t : Token) : TokenLine := ⟨t :: l.items, l.size + 1⟩

/-- Put a token behind the first `n` ones. -/
def insertAt (l : TokenLine) (n : Nat) (t : Token) : TokenLine :=
  let later := l.size - n
  ⟨l.items.take later ++ t :: l.items.drop later, l.size + 1⟩

end TokenLine

/-- The state between two tokens. -/
structure Scan where
  cursor : Cursor
  /-- The column of the innermost block collection, `-1` outside of any. -/
  indent : Int := -1
  /-- The columns of the collections around it, innermost first. -/
  outer : List Int := []
  /-- How many flow collections are open. -/
  flowDepth : Nat := 0
  /-- Whether a key without an indicator may start here. -/
  keyAllowed : Bool := true
  /-- Where a key may have started, for the innermost flow collection first. -/
  keyPlaces : List (Option KeyPlace) := [none]
  /-- The tokens so far. -/
  tokens : TokenLine := {}
  deriving Repr

namespace Scan

/-! ## Indentation -/

/-- Put a token behind the first `n` ones. -/
def insertAt (s : Scan) (n : Nat) (t : Token) : Scan :=
  { s with tokens := s.tokens.insertAt n t }

def push (s : Scan) (t : Token) : Scan := { s with tokens := s.tokens.push t }

/-- Start a block collection at a column deeper than the current one, with its start token
behind the first `n` tokens. -/
def enter (s : Scan) (column n : Nat) (start : Token) : Scan :=
  if s.flowDepth = 0 && s.indent < column then
    { s with indent := column, outer := s.indent :: s.outer }.insertAt n start
  else s

/-- The block end tokens, and the columns left, when all columns deeper than `column` are left. -/
def leaveColumns (column : Int) : Int → List Int → TokenLine → Int × List Int × TokenLine
  | indent, [], tokens => (indent, [], tokens)
  | indent, o :: os, tokens =>
    if indent > column then leaveColumns column o os (tokens.push .blockEnd)
    else (indent, o :: os, tokens)

/-- End the block collections that are deeper than a column. -/
def leave (s : Scan) (column : Int) : Scan :=
  if s.flowDepth = 0 then
    let (indent, outer, tokens) := leaveColumns column s.indent s.outer s.tokens
    { s with indent, outer, tokens }
  else s

/-! ## Places of keys -/

/-- Forget the place where a key may have started. It is an error if a key had to. -/
def dropKey (s : Scan) : Except Fault Scan :=
  match s.keyPlaces with
  | some k :: ks =>
    if k.required then .error .missingColon else .ok { s with keyPlaces := none :: ks }
  | _ => .ok s

/-- Remember the current place as one where a key may start. -/
def saveKey (s : Scan) : Except Fault Scan :=
  if s.keyAllowed then do
    let required := s.flowDepth = 0 && s.indent = s.cursor.mark.column
    let s ← s.dropKey
    .ok { s with keyPlaces := some ⟨required, s.tokens.size, s.cursor.mark⟩ :: s.keyPlaces.drop 1 }
  else .ok s

/-- Forget the places that are too far back: a key stands on one line and within 1024
characters. -/
def expireKeys (m : Mark) : List (Option KeyPlace) → Except Fault (List (Option KeyPlace))
  | [] => .ok []
  | none :: ks => do .ok (none :: (← expireKeys m ks))
  | some k :: ks => do
    if k.mark.line < m.line || k.mark.index + 1024 < m.index then
      if k.required then .error .missingColon else .ok (none :: (← expireKeys m ks))
    else .ok (some k :: (← expireKeys m ks))

/-! ## To the next token -/

/-- Skip blanks, comments and line breaks. A tab counts as a blank only where no block
structure can start, and a new line allows keys again in block context. -/
def skipToToken : Nat → Bool → Bool → Cursor → Bool × Cursor
  | 0, _, keyAllowed, c => (keyAllowed, c)
  | fuel + 1, inFlow, keyAllowed, c =>
    let c := if c.mark.column = 0 && c.rest.head? == some '\ufeff' then c.drop 1 else c
    let c := (c.skip fun d => d = ' ' || ((inFlow || !keyAllowed) && d = '\t')).skipComment
    match c.rest with
    | d :: _ =>
      if isBreak d then skipToToken fuel inFlow (keyAllowed || !inFlow) c.skipBreak
      else (keyAllowed, c)
    | [] => (keyAllowed, c)

/-! ## Single tokens -/

/-- Step over `n` characters and add a token. -/
def take (s : Scan) (n : Nat) (t : Token) : Scan :=
  { s with cursor := s.cursor.drop n }.push t

def documentMarker (s : Scan) (t : Token) : Except Fault Scan := do
  let s ← (s.leave (-1)).dropKey
  .ok ({ s with keyAllowed := false }.take 3 t)

def directiveLine (s : Scan) : Except Fault Scan := do
  let s ← (s.leave (-1)).dropKey
  let (d, stop) ← directive s.cursor
  .ok ({ s with keyAllowed := false, cursor := stop }.push (.directive d))

def openFlow (s : Scan) (t : Token) : Except Fault Scan := do
  let s ← s.saveKey
  .ok ({ s with
    keyPlaces := none :: s.keyPlaces, flowDepth := s.flowDepth + 1, keyAllowed := true }.take 1 t)

def closeFlow (s : Scan) (t : Token) : Except Fault Scan := do
  let s ← s.dropKey
  let s := if s.flowDepth = 0 then s
    else { s with keyPlaces := s.keyPlaces.drop 1, flowDepth := s.flowDepth - 1 }
  .ok ({ s with keyAllowed := false }.take 1 t)

def flowComma (s : Scan) : Except Fault Scan := do
  let s ← s.dropKey
  .ok ({ s with keyAllowed := true }.take 1 .flowEntry)

def blockDash (s : Scan) : Except Fault Scan := do
  if s.flowDepth = 0 && !s.keyAllowed then .error .sequenceNotAllowedHere
  else
    let s := s.enter s.cursor.mark.column s.tokens.size .blockSeqStart
    let s ← s.dropKey
    .ok ({ s with keyAllowed := true }.take 1 .blockEntry)

def keyMark (s : Scan) : Except Fault Scan := do
  if s.flowDepth = 0 && !s.keyAllowed then .error .keyNotAllowedHere
  else
    let s := s.enter s.cursor.mark.column s.tokens.size .blockMapStart
    let s ← s.dropKey
    .ok ({ s with keyAllowed := s.flowDepth = 0 }.take 1 .key)

def valueMark (s : Scan) : Except Fault Scan :=
  match s.keyPlaces with
  | some k :: ks =>
    let s := (s.insertAt k.tokens .key).enter k.mark.column k.tokens .blockMapStart
    .ok ({ s with keyPlaces := none :: ks, keyAllowed := false }.take 1 .value)
  | _ =>
    if s.flowDepth = 0 && !s.keyAllowed then .error .valueNotAllowedHere
    else
      let s := s.enter s.cursor.mark.column s.tokens.size .blockMapStart
      .ok ({ s with keyAllowed := s.flowDepth = 0 }.take 1 .value)

def reference (s : Scan) (t : String → Token) : Except Fault Scan := do
  let s ← s.saveKey
  let (name, stop) ← anchorName s.cursor
  .ok ({ s with keyAllowed := false, cursor := stop }.push (t name))

def tagMark (s : Scan) : Except Fault Scan := do
  let s ← s.saveKey
  let (t, stop) ← tag (s.flowDepth ≠ 0) s.cursor
  .ok ({ s with keyAllowed := false, cursor := stop }.push (.tag t))

def blockText (s : Scan) (literal : Bool) : Except Fault Scan := do
  let s ← s.dropKey
  let (text, stop) ← blockScalar literal s.indent (s.cursor.drop 1)
  .ok ({ s with keyAllowed := true, cursor := stop }.push (.scalar text false))

def quotedText (s : Scan)
    (read : List Char → Gap → Mark → List Char → Except Fault (String × Cursor)) :
    Except Fault Scan := do
  let s ← s.saveKey
  let inside := s.cursor.drop 1
  let (text, stop) ← read [] .none inside.mark inside.rest
  .ok ({ s with keyAllowed := false, cursor := stop }.push (.scalar text false))

def plainText (s : Scan) : Except Fault Scan := do
  let s ← s.saveKey
  let ctx : PlainContext := ⟨(s.indent + 1).toNat, s.flowDepth ≠ 0⟩
  let p ← plainFrom ctx [] .none s.cursor.mark s.cursor.rest
  .ok ({ s with keyAllowed := p.brokeLine, cursor := p.stop }.push (.scalar p.text true))

/-- Whether a plain scalar cannot start with a character, whatever follows. -/
def isIndicator (c : Char) : Bool :=
  c ∈ ['-', '?', ':', ',', '[', ']', '{', '}', '#', '&', '*', '!', '|', '>', '\'', '"', '%',
    '@', '\x60']

/-- Whether a plain scalar can start here: not with an indicator, except that a dash, and in
block context a question mark or colon, may start one when no blank follows. -/
def startsPlain (inFlow : Bool) (c : Char) (cs : List Char) : Bool :=
  !(isIndicator c || isSpace c || isBreak c)
    || (c = '-' && !(cs.head?.any isSpace))
    || (!inFlow && (c = '?' || c = ':') && !blankNext cs)

def token (s : Scan) (c : Char) (cs : List Char) : Except Fault Scan :=
  let inFlow : Bool := s.flowDepth ≠ 0
  let atStart : Bool := s.cursor.mark.column = 0
  if atStart && c = '%' then s.directiveLine
  else if atStart && markerNext (c :: cs) then
    s.documentMarker (if c = '-' then .documentStart else .documentEnd)
  else if c = '[' then s.openFlow .flowSeqStart
  else if c = '{' then s.openFlow .flowMapStart
  else if c = ']' then s.closeFlow .flowSeqEnd
  else if c = '}' then s.closeFlow .flowMapEnd
  else if c = ',' then s.flowComma
  else if c = '-' && blankNext cs then s.blockDash
  else if c = '?' && (inFlow || blankNext cs) then s.keyMark
  else if c = ':' && (inFlow || blankNext cs) then s.valueMark
  else if c = '*' then s.reference .alias
  else if c = '&' then s.reference .anchor
  else if c = '!' then s.tagMark
  else if c = '|' && !inFlow then s.blockText true
  else if c = '>' && !inFlow then s.blockText false
  else if c = '\'' then s.quotedText singleFrom
  else if c = '"' then s.quotedText doubleFrom
  else if startsPlain inFlow c cs then s.plainText
  else .error (.noToken c)

/-- Read all tokens from a state on. The fuel is more than the characters to be read. -/
def run : Nat → Scan → Except Fault (List Token)
  | 0, s => .ok s.tokens.items.reverse
  | fuel + 1, s => do
    let (keyAllowed, cursor) :=
      skipToToken (fuel + 1) (s.flowDepth ≠ 0) s.keyAllowed s.cursor
    let keyPlaces ← expireKeys cursor.mark s.keyPlaces
    let s := { s with keyAllowed, cursor, keyPlaces }.leave cursor.mark.column
    match cursor.rest with
    | [] => do
      let s ← (s.leave (-1)).dropKey
      .ok s.tokens.items.reverse
    | c :: cs => run fuel (← s.token c cs)

end Scan

/-- The tokens of a text, all of whose characters have to be allowed in one. -/
def tokens (text : String) : Except Fault (List Token) :=
  let cs := text.toList
  match cs.find? (!isAllowed ·) with
  | some c => .error (.forbiddenCharacter c)
  | none => Scan.run (cs.length + 1) { cursor := ⟨{}, cs⟩ }

end Handover.Yaml
