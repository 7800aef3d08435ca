import Downloads.Text.Integer
import Downloads.Text.Quoted

/-!
# JSON

The values that commands answer with, and their text: two blanks of indentation for each level
and one member or item a line.
-/

namespace Downloads

/-- A JSON value without fractions. -/
inductive Json where
  | null
  | bool (b : Bool)
  | int (n : Int)
  | text (s : String)
  | list (items : List Json)
  | object (members : List (String × Json))
  deriving Repr

namespace Json

instance : Inhabited Json := ⟨.null⟩

def ofText? : Option String → Json
  | none => .null
  | some s => .text s

def ofInt? : Option Int → Json
  | none => .null
  | some n => .int n

/-- The name that a value gives: a text, or the only member of an object, which is null. -/
def name? : Json → Option String
  | .text s => some s
  | .object [(s, .null)] => some s
  | _ => none

/-- One character of a string. -/
def escape (c : Char) : List Char :=
  match c with
  | '"' => ['\\', '"']
  | '\\' => ['\\', '\\']
  | '\n' => ['\\', 'n']
  | '\r' => ['\\', 'r']
  | '\t' => ['\\', 't']
  | '\x08' => ['\\', 'b']
  | '\x0c' => ['\\', 'f']
  | c =>
    if c.toNat < 0x20 then
      ['\\', 'u', '0', '0', Text.hexDigit (c.toNat / 16), Text.hexDigit (c.toNat % 16)]
    else [c]

/-- A string with its quotes. -/
def string (s : String) : String := String.ofList ('"' :: s.toList.flatMap escape ++ ['"'])

/-- A new line at a level of nesting. -/
def newline (level : Nat) : String := String.ofList ('\n' :: List.replicate (2 * level) ' ')

mutual

/-- The text of a value at a level of nesting. -/
def renderAt (level : Nat) : Json → String
  | .null => "null"
  | .bool b => if b then "true" else "false"
  | .int n => Text.decimal n
  | .text s => string s
  | .list [] => "[]"
  | .list (x :: xs) =>
    "[" ++ newline (level + 1) ++ renderAt (level + 1) x ++ renderItems (level + 1) xs
      ++ newline level ++ "]"
  | .object [] => "\x7b\x7d"
  | .object ((k, x) :: xs) =>
    "\x7b" ++ newline (level + 1) ++ string k ++ ": " ++ renderAt (level + 1) x
      ++ renderMembers (level + 1) xs ++ newline level ++ "\x7d"

/-- The items after the first. -/
def renderItems (level : Nat) : List Json → String
  | [] => ""
  | x :: xs => "," ++ newline level ++ renderAt level x ++ renderItems level xs

/-- The members after the first. -/
def renderMembers (level : Nat) : List (String × Json) → String
  | [] => ""
  | (k, x) :: xs =>
    "," ++ newline level ++ string k ++ ": " ++ renderAt level x ++ renderMembers level xs

end

def render (v : Json) : String := renderAt 0 v

end Json

end Downloads
