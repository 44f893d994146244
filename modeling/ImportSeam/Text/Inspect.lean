import ImportSeam.Text.Digit
import ImportSeam.Text.Escaped

/-!
# Quoted text for people

The form in which a text appears in a listing meant for a person: between double quotes, with
what could not be seen written as an escape.

## Main definitions

* `inspect` — a text between double quotes.
* `inspectList` — a list between brackets.
-/

namespace ImportSeam.Text

/-- One character of a quoted text.  A backslash, a double quote and the common controls have
escapes of their own; every other character that could not be seen is written as its code point
in braces. -/
def inspectChar (c : Char) : List Char :=
  if c == '\\' then ['\\', '\\']
  else if c == '"' then ['\\', '"']
  else if c == '\n' then ['\\', 'n']
  else if c == '\r' then ['\\', 'r']
  else if c == '\t' then ['\\', 't']
  else if c.toNat == 0 then ['\\', '0']
  else if isUnshown c then ['\\', 'u', '{'] ++ hexDigits c.toNat ++ ['}']
  else [c]

/-- A text between double quotes, every character as `inspectChar` writes it. -/
def inspect (s : String) : String :=
  String.ofList ('"' :: s.toList.flatMap inspectChar ++ ['"'])

/-- Already written items between brackets. -/
def inspectList (items : List String) : String :=
  "[" ++ ", ".intercalate items ++ "]"

end ImportSeam.Text
