import SceneLoop.Text.Printable

/-!
# Quoted text

A text between double quotes in which every character is visible: the quote and the backslash are
escaped, so are controls and characters that cannot be printed, and a combining character at the
start, which would otherwise join the opening quote.

## Main definitions

* `Text.quoted` : the quoted form.
-/

namespace SceneLoop.Text

/-- A character by its code point, between braces. -/
def escapedCodePoint (c : Char) : String :=
  "\\u\x7b" ++ hex 1 c.toNat ++ "\x7d"

/-- The form of a character inside quotes. -/
def quotedChar (c : Char) : String :=
  if c = '\x00' then "\\0"
  else if c = '\t' then "\\t"
  else if c = '\r' then "\\r"
  else if c = '\n' then "\\n"
  else if c = '"' then "\\\""
  else if c = '\\' then "\\\\"
  else if isPrintable c then c.toString
  else escapedCodePoint c

/-- A text between double quotes. -/
def quoted (s : String) : String :=
  let body := match s.toList with
    | [] => ""
    | c :: rest =>
      (if isCombining c then escapedCodePoint c else quotedChar c) ++
        String.join (rest.map quotedChar)
  "\"" ++ body ++ "\""

end SceneLoop.Text
