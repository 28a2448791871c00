import ServiceHost.Decimal.Notation
import ServiceHost.Keyed

/-!
This module contains JSON values and their texts: `Json.compact` without any spaces, `Json.pretty` on
several lines. `Json.Value` is what a program holds, `Json` also what a text may say.
-/

namespace ServiceHost

/-- A JSON value. A number is an integer or a double; objects list their members in order. -/
inductive Json where
  | null
  | bool (value : Bool)
  | integer (value : Int)
  | float (value : Float)
  | string (value : String)
  | array (elements : List Json)
  | object (members : List (String × Json))
  deriving Inhabited

namespace Json

def ofMembers (members : List (String × Json)) : Json :=
  .object (Keyed.ofList members).entries

mutual

def IsValue : Json → Prop
  | .integer n => -(UInt64.size / 2) ≤ n ∧ n < UInt64.size
  | .array elements => ElementsAreValues elements
  | .object members => Entries.Ascending members ∧ MembersAreValues members
  | _ => True

def ElementsAreValues : List Json → Prop
  | [] => True
  | value :: rest => IsValue value ∧ ElementsAreValues rest

def MembersAreValues : List (String × Json) → Prop
  | [] => True
  | (_, value) :: rest => IsValue value ∧ MembersAreValues rest

end

structure Value where
  json : Json
  isValue : json.IsValue

def member? (name : String) : Json → Option Json
  | .object members => Entries.find? name members
  | _ => none

def escapeChar (c : Char) : List Char :=
  if c = '"' then ['\\', '"']
  else if c = '\\' then ['\\', '\\']
  else if c = '\x08' then ['\\', 'b']
  else if c = '\x0c' then ['\\', 'f']
  else if c = '\n' then ['\\', 'n']
  else if c = '\r' then ['\\', 'r']
  else if c = '\t' then ['\\', 't']
  else if c.toNat < 0x20 then
    ['\\', 'u', '0', '0', Nat.digitChar (c.toNat / 16), Nat.digitChar (c.toNat % 16)]
  else [c]

def literal (text : List Char) : List Char :=
  '"' :: text.flatMap escapeChar ++ ['"']

def decimal (n : Int) : List Char :=
  if n < 0 then '-' :: Nat.toDigits 10 n.natAbs else Nat.toDigits 10 n.natAbs

/-- A double; JSON has no literal for what is not finite, so that is `null`. -/
def number (x : Float) : List Char :=
  Decimal.jsonStyle.write x

mutual

def chars : Json → List Char
  | .null => ['n', 'u', 'l', 'l']
  | .bool true => ['t', 'r', 'u', 'e']
  | .bool false => ['f', 'a', 'l', 's', 'e']
  | .integer n => decimal n
  | .float x => number x
  | .string s => literal s.toList
  | .array elements => '[' :: elementChars elements ++ [']']
  | .object members => '\x7b' :: memberChars members ++ ['\x7d']

def elementChars : List Json → List Char
  | [] => []
  | [value] => chars value
  | value :: next :: rest => chars value ++ ',' :: elementChars (next :: rest)

def memberChars : List (String × Json) → List Char
  | [] => []
  | [(name, value)] => literal name.toList ++ ':' :: chars value
  | (name, value) :: next :: rest =>
    literal name.toList ++ ':' :: chars value ++ ',' :: memberChars (next :: rest)

end

def compact (value : Json) : String :=
  .ofList value.chars

def newline (level : Nat) : List Char :=
  '\n' :: List.replicate (2 * level) ' '

mutual

def prettyChars (level : Nat) : Json → List Char
  | .array [] => ['[', ']']
  | .object [] => ['\x7b', '\x7d']
  | .array elements =>
    '[' :: prettyElements (level + 1) elements ++ newline level ++ [']']
  | .object members =>
    '\x7b' :: prettyMembers (level + 1) members ++ newline level ++ ['\x7d']
  | .null => chars .null
  | .bool b => chars (.bool b)
  | .integer n => decimal n
  | .float x => number x
  | .string s => literal s.toList

def prettyElements (level : Nat) : List Json → List Char
  | [] => []
  | [value] => newline level ++ prettyChars level value
  | value :: next :: rest =>
    newline level ++ prettyChars level value ++ ',' :: prettyElements level (next :: rest)

def prettyMembers (level : Nat) : List (String × Json) → List Char
  | [] => []
  | [(name, value)] => newline level ++ literal name.toList ++ ':' :: ' ' :: prettyChars level value
  | (name, value) :: next :: rest =>
    newline level ++ literal name.toList ++ ':' :: ' ' :: prettyChars level value ++
      ',' :: prettyMembers level (next :: rest)

end

def pretty (value : Json) : String :=
  .ofList (value.prettyChars 0)

namespace Value

def null : Value :=
  ⟨.null, trivial⟩

theorem isValue_natural (n : UInt64) : (Json.integer n.toNat).IsValue := by
  have hlt := n.toNat_lt
  have hsize : UInt64.size = 2 ^ 64 := rfl
  unfold IsValue
  omega

def natural (n : UInt64) : Value :=
  ⟨.integer n.toNat, isValue_natural n⟩

def float (x : Float) : Value :=
  ⟨.float x, trivial⟩

def string (text : String) : Value :=
  ⟨.string text, trivial⟩

theorem elementsAreValues_map (elements : List Value) : ElementsAreValues (elements.map Value.json) := by
  induction elements with
  | nil => exact trivial
  | cons value rest ih => exact ⟨value.isValue, ih⟩

theorem membersAreValues_map (members : List (String × Value)) :
    MembersAreValues (members.map fun member => (member.1, member.2.json)) := by
  induction members with
  | nil => exact trivial
  | cons member rest ih => exact ⟨member.2.isValue, ih⟩

def array (elements : List Value) : Value :=
  ⟨.array (elements.map Value.json), elementsAreValues_map elements⟩

theorem ascending_map (members : Keyed Value) :
    Entries.Ascending (members.entries.map fun member => (member.1, member.2.json)) :=
  List.pairwise_map.mpr members.ascending

def object (members : Keyed Value) : Value :=
  ⟨.object (members.entries.map fun member => (member.1, member.2.json)),
    ascending_map members, membersAreValues_map members.entries⟩

mutual

/-- Makes doubles of integers that have more bits; of two members with one name the later counts. -/
def ofJson : Json → Value
  | .null => null
  | .bool b => ⟨.bool b, trivial⟩
  | .integer n =>
    if h : -(UInt64.size / 2) ≤ n ∧ n < UInt64.size then ⟨.integer n, h⟩ else float (.ofInt n)
  | .float x => float x
  | .string text => string text
  | .array elements => array (ofElements elements)
  | .object members => object (.ofList (ofMembers members))

def ofElements : List Json → List Value
  | [] => []
  | value :: rest => ofJson value :: ofElements rest

def ofMembers : List (String × Json) → List (String × Value)
  | [] => []
  | (name, value) :: rest => (name, ofJson value) :: ofMembers rest

end

end Value

end Json

end ServiceHost
