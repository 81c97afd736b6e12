import EventTables.Text.Class
import EventTables.Text.Unprintable

/-!
# Quoted Text

How a text or a single character is shown inside an error message.

A message quotes the text it complains about, and the quoted form has to be
readable on one line whatever the text holds. The common controls have short
escapes, a backslash and the enclosing quote are escaped by a backslash, and
every other character without a printed form is shown by its number. A mark
that extends the character before it is shown by its number as well, wherever
it stands. All other characters stand for themselves.

## Main definitions

* `escapeChar`: The quoted form of one character between two quotes.
* `quoteText`: A text between double quotes.
* `quoteChar`: A character between single quotes.
* `quoteTexts`: A list of texts, each quoted, between brackets.
-/

namespace EventTables

namespace Text

/-- The character shown by its number, in lower-case hexadecimal digits. -/
def numbered (c : Char) : List Char :=
  ['\\', 'u', '{'] ++ Nat.toDigits 16 c.toNat ++ ['}']

/-- The form of a character between two `quote` characters. -/
def escapeChar (quote c : Char) : List Char :=
  match c with
  | '\x00' => ['\\', '0']
  | '\t' => ['\\', 't']
  | '\r' => ['\\', 'r']
  | '\n' => ['\\', 'n']
  | '\\' => ['\\', '\\']
  | c =>
    if c = quote then ['\\', c]
    else if isExtender c || isUnprintable c then numbered c
    else [c]

/-- The text between double quotes, every character in its quoted form. -/
def quoteText (s : String) : String :=
  String.ofList ('\"' :: s.toList.flatMap (escapeChar '\"') ++ ['\"'])

/-- The character between single quotes, in its quoted form. -/
def quoteChar (c : Char) : String :=
  String.ofList ('\'' :: escapeChar '\'' c ++ ['\''])

/-- The texts between brackets, each quoted, a comma and a space between two. -/
def quoteTexts (ss : List String) : String :=
  "[" ++ ", ".intercalate (ss.map quoteText) ++ "]"

end Text

end EventTables
