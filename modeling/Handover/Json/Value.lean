/-!
# JSON values and their layout

An object is the list of its members in the order they stand in; a name may occur several
times. Reports are laid out over several lines with two spaces of indentation.
-/

namespace Handover

/-- A JSON value. -/
inductive Json where
  | null
  | bool (b : Bool)
  | int (i : Int)
  /-- A number that is not a whole one of 64 bits, as it is spelled. -/
  | real (spelling : String)
  | text (s : String)
  | array (items : List Json)
  | object (members : List (String × Json))
  deriving Repr, Inhabited

namespace Json

def texts (xs : List String) : Json := .array (xs.map .text)

/-- A text, or null. -/
def text? : Option String → Json
  | some s => .text s
  | none => .null

def member? (name : String) : Json → Option Json
  | .object members => (members.reverse.find? (·.1 = name)).map (·.2)
  | _ => none

/-! ## Writing -/

/-- A digit of base 16, in lower case. -/
def lowerHex (n : Nat) : Char := if n < 10 then Char.ofNat (48 + n) else Char.ofNat (87 + n)

def escape (c : Char) : List Char :=
  if c = '"' then ['\\', '"']
  else if c = '\\' then ['\\', '\\']
  else if c = '\n' then ['\\', 'n']
  else if c = '\r' then ['\\', 'r']
  else if c = '\t' then ['\\', 't']
  else if c = '\u0008' then ['\\', 'b']
  else if c = '\u000c' then ['\\', 'f']
  else if c.toNat < 0x20 then
    ['\\', 'u', '0', '0', lowerHex (c.toNat / 16), lowerHex (c.toNat % 16)]
  else [c]

def quote (s : String) : String :=
  String.ofList ('"' :: s.toList.flatMap escape ++ ['"'])

def newLine (depth : Nat) : String :=
  String.ofList ('\n' :: List.replicate (2 * depth) ' ')

mutual

/-- The layout of a value at a depth, one item or member to a line. -/
def layout (depth : Nat) : Json → String
  | .null => "null"
  | .bool b => if b then "true" else "false"
  | .int i => toString i
  | .real spelling => spelling
  | .text s => quote s
  | .array [] => "[]"
  | .array (x :: xs) => "[" ++ layoutItems (depth + 1) (x :: xs) ++ newLine depth ++ "]"
  | .object [] => "\x7b\x7d"
  | .object (m :: ms) => "\x7b" ++ layoutMembers (depth + 1) (m :: ms) ++ newLine depth ++ "\x7d"

/-- The layout of items, each behind a line break. -/
def layoutItems (depth : Nat) : List Json → String
  | [] => ""
  | [x] => newLine depth ++ layout depth x
  | x :: xs => newLine depth ++ layout depth x ++ "," ++ layoutItems depth xs

/-- The layout of members, each behind a line break. -/
def layoutMembers (depth : Nat) : List (String × Json) → String
  | [] => ""
  | [(name, x)] => newLine depth ++ quote name ++ ": " ++ layout depth x
  | (name, x) :: ms =>
    newLine depth ++ quote name ++ ": " ++ layout depth x ++ "," ++ layoutMembers depth ms

end

def pretty (j : Json) : String := layout 0 j

mutual

def compact : Json → String
  | .null => "null"
  | .bool b => if b then "true" else "false"
  | .int i => toString i
  | .real spelling => spelling
  | .text s => quote s
  | .array items => "[" ++ compactItems items ++ "]"
  | .object members => "\x7b" ++ compactMembers members ++ "\x7d"

def compactItems : List Json → String
  | [] => ""
  | [x] => compact x
  | x :: xs => compact x ++ "," ++ compactItems xs

def compactMembers : List (String × Json) → String
  | [] => ""
  | [(name, x)] => quote name ++ ":" ++ compact x
  | (name, x) :: ms => quote name ++ ":" ++ compact x ++ "," ++ compactMembers ms

end

end Json

end Handover
