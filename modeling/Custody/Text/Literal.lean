/-!
# String literals

The literal of a text stands between single quotes.  A backslash, a single
quote and a line break are written with a backslash in front, everything else
as it is.
-/

namespace Custody.Text

/-- How one character is written inside a literal. -/
def literalChar (char : Char) : List Char :=
  if char = '\\' then
    ['\\', '\\']
  else if char = '\x27' then
    ['\\', '\x27']
  else if char = '\n' then
    ['\\', 'n']
  else
    [char]

/-- The literal of a text. -/
def literal (text : String) : String :=
  "'" ++ String.ofList (text.toList.flatMap literalChar) ++ "'"

end Custody.Text
