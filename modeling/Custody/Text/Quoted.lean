import Custody.Text.Hidden

/-!
# Diagnostic texts

The diagnostic form of a value: texts in double quotes with escapes, records as
a name with braced fields, sequences in brackets, and optional values as `Some`
or `None`.
-/

namespace Custody.Text

/-- How one character is written in a quoted text. -/
def quotedChar (char : Char) : String :=
  if char = '\x00' then
    "\\0"
  else if char = '\t' then
    "\\t"
  else if char = '\r' then
    "\\r"
  else if char = '\n' then
    "\\n"
  else if char = '\\' then
    "\\\\"
  else if char = '\x22' then
    "\\\""
  else if isHidden char then
    "\\u\x7b" ++ String.ofList (Nat.toDigits 16 char.toNat) ++ "\x7d"
  else
    char.toString

/-- A text in double quotes. -/
def quoted (text : String) : String :=
  "\"" ++ String.join (text.toList.map quotedChar) ++ "\""

/-- A name with braced fields. -/
def braced
    (name : String)
    (fields : List (String × String)) :
    String :=
  name ++ " \x7b " ++
    ", ".intercalate (fields.map fun field => field.1 ++ ": " ++ field.2) ++
    " \x7d"

/-- Parts in brackets. -/
def bracketed (parts : List String) : String :=
  "[" ++ ", ".intercalate parts ++ "]"

/-- An optional value. -/
def optional (text : Option String) : String :=
  match text with
  | some text => "Some(" ++ text ++ ")"
  | none => "None"

end Custody.Text
