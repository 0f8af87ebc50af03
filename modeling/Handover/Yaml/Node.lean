import Handover.Yaml.Token

/-!
# The nodes of a document

A document is parsed from its tokens into a tree whose nodes carry their anchors and tags and
whose aliases are still names. The grammar is a recursive descent over the list of tokens; what
is missing in a collection is an empty plain scalar.
-/

namespace Handover.Yaml

/-- A node, with anchors and aliases given as references of some type. -/
inductive Node (ref : Type) where
  | alias (target : ref)
  | scalar (anchor : Option ref) (tag : Option String) (text : String) (isPlain : Bool)
  | seq (anchor : Option ref) (tag : Option String) (items : List (Node ref))
  | map (anchor : Option ref) (tag : Option String) (entries : List (Node ref × Node ref))
  deriving Repr

namespace Node

instance {ref : Type} : Inhabited (Node ref) := ⟨.scalar none none "" true⟩

/-- The node that stands where none is written. -/
def absent : Node String := .scalar none none "" true

/-! ## Properties in front of a node -/

/-- The texts that tag handles stand for. The first one given for a handle counts. -/
abbrev Handles := List (String × String)

/-- The handles that every document has, unless it declares them itself. -/
def defaultHandles : Handles := [("!", "!"), ("!!", "tag:yaml.org,2002:")]

def resolveTag (handles : Handles) (t : TagText) : Except Fault String :=
  if t.handle = "" then .ok t.suffix
  else
    match handles.find? (·.1 = t.handle) with
    | some h => .ok (h.2 ++ t.suffix)
    | none => .error .undefinedTagHandle

/-- The anchor and the tag in front of a node, in either order. -/
structure Properties where
  anchor : Option String := none
  tag : Option String := none

def properties (handles : Handles) (ts : List Token) : Except Fault (Properties × List Token) :=
  match ts with
  | .anchor a :: .tag t :: ts => do .ok (⟨some a, some (← resolveTag handles t)⟩, ts)
  | .anchor a :: ts => .ok (⟨some a, none⟩, ts)
  | .tag t :: .anchor a :: ts => do .ok (⟨some a, some (← resolveTag handles t)⟩, ts)
  | .tag t :: ts => do .ok (⟨none, some (← resolveTag handles t)⟩, ts)
  | ts => .ok ({}, ts)

/-! ## What may be missing -/

/-- Whether an item of a block sequence is missing here. -/
def endsItem : List Token → Bool
  | .blockEntry :: _ | .blockEnd :: _ => true
  | _ => false

/-- Whether an item of a block sequence at the column of its mapping is missing here. -/
def endsIndentlessItem : List Token → Bool
  | .blockEntry :: _ | .key :: _ | .value :: _ | .blockEnd :: _ => true
  | _ => false

/-- Whether a key or value of a block mapping is missing here. -/
def endsBlockPart : List Token → Bool
  | .key :: _ | .value :: _ | .blockEnd :: _ => true
  | _ => false

def endsFlowKey : List Token → Bool
  | .value :: _ | .flowEntry :: _ | .flowMapEnd :: _ => true
  | _ => false

/-- Whether the value of a flow mapping is missing here. -/
def endsFlowValue : List Token → Bool
  | .flowEntry :: _ | .flowMapEnd :: _ => true
  | _ => false

/-- Whether the key of a single pair in a flow sequence is missing here. -/
def endsPairKey : List Token → Bool
  | .value :: _ | .flowEntry :: _ | .flowSeqEnd :: _ => true
  | _ => false

/-- Whether the value of a single pair in a flow sequence is missing here. -/
def endsPairValue : List Token → Bool
  | .flowEntry :: _ | .flowSeqEnd :: _ => true
  | _ => false

/-! ## The grammar -/

/-- Where a node stands: whether block collections may start, and whether a sequence may stand
at the column of the mapping around it. -/
structure Position where
  block : Bool
  indentless : Bool

def blockPosition : Position := ⟨true, false⟩

def mappingPosition : Position := ⟨true, true⟩

def flowPosition : Position := ⟨false, false⟩

mutual

def parse (handles : Handles) (fuel : Nat) (pos : Position) (ts : List Token) :
    Except Fault (Node String × List Token) :=
  match fuel with
  | 0 => .error .nestedTooDeep
  | fuel + 1 =>
    match ts with
    | .alias name :: ts => .ok (.alias name, ts)
    | ts => do
      let (p, ts) ← properties handles ts
      match ts with
      | .scalar text isPlain :: ts =>
        .ok (.scalar p.anchor (p.tag.filter (· ≠ "!")) text isPlain, ts)
      | .flowSeqStart :: ts => do
        let (items, ts) ← flowItems handles fuel true ts
        .ok (.seq p.anchor p.tag items, ts)
      | .flowMapStart :: ts => do
        let (entries, ts) ← flowEntries handles fuel true ts
        .ok (.map p.anchor p.tag entries, ts)
      | ts =>
        match pos.indentless, pos.block, ts with
        | true, _, .blockEntry :: _ => do
          let (items, ts) ← indentlessItems handles fuel ts
          .ok (.seq p.anchor p.tag items, ts)
        | _, true, .blockSeqStart :: ts => do
          let (items, ts) ← blockItems handles fuel ts
          .ok (.seq p.anchor p.tag items, ts)
        | _, true, .blockMapStart :: ts => do
          let (entries, ts) ← blockEntries handles fuel ts
          .ok (.map p.anchor p.tag entries, ts)
        | _, _, ts =>
          if p.anchor.isSome || p.tag.isSome then .ok (.scalar p.anchor p.tag "" true, ts)
          else .error .expectedNode

/-- Parse a node unless it is missing. -/
def parseUnless (handles : Handles) (fuel : Nat) (pos : Position) (missing : Bool)
    (ts : List Token) : Except Fault (Node String × List Token) :=
  match fuel with
  | 0 => .error .nestedTooDeep
  | fuel + 1 => if missing then .ok (absent, ts) else parse handles fuel pos ts

def blockItems (handles : Handles) (fuel : Nat) (ts : List Token) :
    Except Fault (List (Node String) × List Token) :=
  match fuel with
  | 0 => .error .nestedTooDeep
  | fuel + 1 =>
    match ts with
    | .blockEntry :: ts => do
      let (item, ts) ← parseUnless handles fuel blockPosition (endsItem ts) ts
      let (items, ts) ← blockItems handles fuel ts
      .ok (item :: items, ts)
    | .blockEnd :: ts => .ok ([], ts)
    | _ => .error .expectedItem

/-- Parse the items of a block sequence that stands at the column of its mapping. -/
def indentlessItems (handles : Handles) (fuel : Nat) (ts : List Token) :
    Except Fault (List (Node String) × List Token) :=
  match fuel with
  | 0 => .error .nestedTooDeep
  | fuel + 1 =>
    match ts with
    | .blockEntry :: ts => do
      let (item, ts) ← parseUnless handles fuel blockPosition (endsIndentlessItem ts) ts
      let (items, ts) ← indentlessItems handles fuel ts
      .ok (item :: items, ts)
    | ts => .ok ([], ts)

def blockValue (handles : Handles) (fuel : Nat) (ts : List Token) :
    Except Fault (Node String × List Token) :=
  match fuel with
  | 0 => .error .nestedTooDeep
  | fuel + 1 =>
    match ts with
    | .value :: ts => parseUnless handles fuel mappingPosition (endsBlockPart ts) ts
    | ts => .ok (absent, ts)

def blockEntries (handles : Handles) (fuel : Nat) (ts : List Token) :
    Except Fault (List (Node String × Node String) × List Token) :=
  match fuel with
  | 0 => .error .nestedTooDeep
  | fuel + 1 =>
    match ts with
    | .key :: ts => do
      let (k, ts) ← parseUnless handles fuel mappingPosition (endsBlockPart ts) ts
      let (v, ts) ← blockValue handles fuel ts
      let (entries, ts) ← blockEntries handles fuel ts
      .ok ((k, v) :: entries, ts)
    | .blockEnd :: ts => .ok ([], ts)
    | _ => .error .expectedKey

/-- Parse the items of a flow sequence and its end. An item may be a mapping of one pair. -/
def flowItems (handles : Handles) (fuel : Nat) (first : Bool) (ts : List Token) :
    Except Fault (List (Node String) × List Token) :=
  match fuel with
  | 0 => .error .nestedTooDeep
  | fuel + 1 =>
    match first, ts with
    | _, .flowSeqEnd :: ts => .ok ([], ts)
    | false, .flowEntry :: .flowSeqEnd :: ts => .ok ([], ts)
    | false, .flowEntry :: ts => flowItem handles fuel ts
    | false, _ => .error .expectedComma
    | true, ts => flowItem handles fuel ts

/-- Parse one item of a flow sequence and those after it. -/
def flowItem (handles : Handles) (fuel : Nat) (ts : List Token) :
    Except Fault (List (Node String) × List Token) :=
  match fuel with
  | 0 => .error .nestedTooDeep
  | fuel + 1 =>
    match ts with
    | .key :: ts => do
      let (k, ts) ←
        if endsPairKey ts then .ok (absent, ts.drop 1) else parse handles fuel flowPosition ts
      let (v, ts) ← flowPairValue handles fuel ts
      let (items, ts) ← flowItems handles fuel false ts
      .ok (.map none none [(k, v)] :: items, ts)
    | ts => do
      let (item, ts) ← parse handles fuel flowPosition ts
      let (items, ts) ← flowItems handles fuel false ts
      .ok (item :: items, ts)

/-- Parse the value of a single pair in a flow sequence. -/
def flowPairValue (handles : Handles) (fuel : Nat) (ts : List Token) :
    Except Fault (Node String × List Token) :=
  match fuel with
  | 0 => .error .nestedTooDeep
  | fuel + 1 =>
    match ts with
    | .value :: ts => parseUnless handles fuel flowPosition (endsPairValue ts) ts
    | ts => .ok (absent, ts)

def flowEntries (handles : Handles) (fuel : Nat) (first : Bool) (ts : List Token) :
    Except Fault (List (Node String × Node String) × List Token) :=
  match fuel with
  | 0 => .error .nestedTooDeep
  | fuel + 1 =>
    match first, ts with
    | _, .flowMapEnd :: ts => .ok ([], ts)
    | false, .flowEntry :: .flowMapEnd :: ts => .ok ([], ts)
    | false, .flowEntry :: ts => flowEntry handles fuel ts
    | false, _ => .error .expectedComma
    | true, ts => flowEntry handles fuel ts

/-- Parse one entry of a flow mapping and those after it. -/
def flowEntry (handles : Handles) (fuel : Nat) (ts : List Token) :
    Except Fault (List (Node String × Node String) × List Token) :=
  match fuel with
  | 0 => .error .nestedTooDeep
  | fuel + 1 =>
    match ts with
    | .key :: ts => do
      let (k, ts) ← parseUnless handles fuel flowPosition (endsFlowKey ts) ts
      let (v, ts) ← flowValue handles fuel ts
      let (entries, ts) ← flowEntries handles fuel false ts
      .ok ((k, v) :: entries, ts)
    | ts => do
      let (k, ts) ← parse handles fuel flowPosition ts
      let (entries, ts) ← flowEntries handles fuel false ts
      .ok ((k, absent) :: entries, ts)

def flowValue (handles : Handles) (fuel : Nat) (ts : List Token) :
    Except Fault (Node String × List Token) :=
  match fuel with
  | 0 => .error .nestedTooDeep
  | fuel + 1 =>
    match ts with
    | .value :: ts => parseUnless handles fuel flowPosition (endsFlowValue ts) ts
    | ts => .ok (absent, ts)

end

/-! ## Documents -/

/-- Read the directives in front of a document: at most one version, which has to be 1.1 or
1.2, and each tag handle once. -/
def directives (seenVersion : Bool) (handles : Handles) :
    List Token → Except Fault (Handles × List Token)
  | .directive (.version major minor) :: ts =>
    if seenVersion || major ≠ 1 || (minor ≠ 1 && minor ≠ 2) then .error .badDirective
    else directives true handles ts
  | .directive (.handle name stem) :: ts =>
    if handles.any (·.1 = name) then .error .badDirective
    else directives seenVersion (handles ++ [(name, stem)]) ts
  | ts => .ok (handles ++ defaultHandles, ts)

def skipDocumentEnds : List Token → List Token
  | .documentEnd :: ts => skipDocumentEnds ts
  | ts => ts

def endsContent : List Token → Bool
  | [] | .directive _ :: _ | .documentStart :: _ | .documentEnd :: _ => true
  | _ => false

def content (handles : Handles) (ts : List Token) : Except Fault (Node String × List Token) :=
  if endsContent ts then .ok (absent, ts)
  else parse handles (4 * ts.length + 4) blockPosition ts

/-- Step over the end marker of a document, if there is one. -/
def documentEnd : List Token → List Token
  | .documentEnd :: ts => ts
  | ts => ts

/-- Parse the documents that follow the first place of a stream. Each needs a start marker. -/
def laterDocuments : Nat → List Token → Except Fault (List (Node String))
  | 0, _ => .error .expectedDocument
  | fuel + 1, ts =>
    match skipDocumentEnds ts with
    | [] => .ok []
    | ts => do
      let (handles, ts) ← directives false [] ts
      match ts with
      | .documentStart :: ts => do
        let (node, ts) ← content handles ts
        .ok (node :: (← laterDocuments fuel (documentEnd ts)))
      | _ => .error .expectedDocument

/-- Parse the documents of a stream. Only the first may do without a start marker. -/
def documents (ts : List Token) : Except Fault (List (Node String)) :=
  match ts with
  | [] => .ok []
  | .directive _ :: _ | .documentStart :: _ => laterDocuments (ts.length + 1) ts
  | _ => do
    let (node, rest) ← parse defaultHandles (4 * ts.length + 4) blockPosition ts
    .ok (node :: (← laterDocuments (rest.length + 1) (documentEnd rest)))

end Node

end Handover.Yaml
