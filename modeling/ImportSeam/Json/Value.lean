import ImportSeam.Number.Text
import ImportSeam.Text.Inspect

/-!
# JSON values

## Main definitions

* `JsonValue` — a value, an object keeping its members in order, repeated keys included.
* `JsonValue.inspect` — a value in a listing meant for a person.
* `JsonValue.pretty` — a value as indented JSON text.
-/

namespace ImportSeam

/-- A JSON value. -/
inductive JsonValue where
  | null
  | bool (b : Bool)
  | int (n : Int)
  /-- A number with a fraction or an exponent. -/
  | float (x : Number)
  | str (s : String)
  | arr (items : List JsonValue)
  | obj (members : List (String × JsonValue))
  deriving Inhabited

namespace JsonValue

/-! ### Listings -/

/-- Already written entries between braces, each key quoted. -/
def inspectEntries (entries : List (String × String)) : String :=
  "\x7b" ++ ", ".intercalate (entries.map fun (k, v) => Text.inspect k ++ ": " ++ v) ++ "\x7d"

mutual

/-- A value in a listing. -/
def inspect : JsonValue → String
  | .null => "Null"
  | .bool b => if b then "Bool(true)" else "Bool(false)"
  | .int n => "Number(" ++ toString n ++ ")"
  | .float x => "Number(" ++ x.text ++ ")"
  | .str s => "String(" ++ Text.inspect s ++ ")"
  | .arr items => "Array " ++ Text.inspectList (inspectItems items)
  | .obj members => "Object " ++ inspectEntries (inspectMembers members)

/-- The items of an array. -/
def inspectItems : List JsonValue → List String
  | [] => []
  | v :: vs => v.inspect :: inspectItems vs

/-- The members of an object. -/
def inspectMembers : List (String × JsonValue) → List (String × String)
  | [] => []
  | (k, v) :: ms => (k, v.inspect) :: inspectMembers ms

end

/-! ### Text -/

/-- A character inside a JSON string.  The quote, the backslash and the controls are escaped. -/
def escapeChar (c : Char) : List Char :=
  match c with
  | '"' => ['\\', '"']
  | '\\' => ['\\', '\\']
  | '\x08' => ['\\', 'b']
  | '\x0c' => ['\\', 'f']
  | '\n' => ['\\', 'n']
  | '\r' => ['\\', 'r']
  | '\t' => ['\\', 't']
  | c =>
    if c < ' ' then '\\' :: 'u' :: Text.padLeft 4 (Text.hexDigits c.toNat) else [c]

/-- A JSON string. -/
def quote (s : String) : String :=
  String.ofList ('"' :: (s.toList.flatMap escapeChar ++ ['"']))

/-- A line break with the indentation after it. -/
def lineBreak (depth : Nat) : String := "\n" ++ String.ofList (List.replicate (2 * depth) ' ')

/-- Already written entries between brackets, one to a line and one level deeper than `depth`.
Without entries the brackets touch. -/
def enclose (left right : String) (depth : Nat) (entries : List String) : String :=
  if entries.isEmpty then left ++ right
  else
    left ++ ",".intercalate (entries.map (lineBreak (depth + 1) ++ ·)) ++ lineBreak depth ++ right

mutual

/-- A value as indented JSON text. -/
def prettyAt (depth : Nat) : JsonValue → String
  | .null => "null"
  | .bool b => if b then "true" else "false"
  | .int n => toString n
  | .float x => x.text
  | .str s => quote s
  | .arr items => enclose "[" "]" depth (prettyItems (depth + 1) items)
  | .obj members => enclose "\x7b" "\x7d" depth (prettyMembers (depth + 1) members)

/-- The items of an array. -/
def prettyItems (depth : Nat) : List JsonValue → List String
  | [] => []
  | v :: vs => v.prettyAt depth :: prettyItems depth vs

/-- The members of an object. -/
def prettyMembers (depth : Nat) : List (String × JsonValue) → List String
  | [] => []
  | (k, v) :: ms => (quote k ++ ": " ++ v.prettyAt depth) :: prettyMembers depth ms

end

/-- A value as JSON text with two blanks of indentation. -/
def pretty (v : JsonValue) : String := v.prettyAt 0

end JsonValue

end ImportSeam
