import StringOrigins.Text.Hex
import StringOrigins.Text.Printable

/-! # Quoted text

    How a text is shown between quotes in the messages of the operating
    system and of the command line.  Single quotes are used, unless the
    text holds a single quote and no double quote.  The quote in use and
    the backslash are escaped, as is every character that is not
    printable, so the shown text is always one line. -/

namespace StringOrigins.Quoted

/-- The quote that encloses a text. -/
def delimiter (s : List Char) : Char :=
  if s.contains '\'' && !s.contains '"' then '"' else '\''

/-- An unprintable character by its code point, in two, four or eight digits. -/
def codePoint (c : Char) : List Char :=
  let n := c.toNat
  if n < 0x100 then ['\\', 'x'] ++ Hex.lowerPadded 2 n
  else if n < 0x10000 then ['\\', 'u'] ++ Hex.lowerPadded 4 n
  else ['\\', 'U'] ++ Hex.lowerPadded 8 n

/-- One character between quotes. -/
def escape (quote c : Char) : List Char :=
  if c = quote ∨ c = '\\' then ['\\', c]
  else if c = '\n' then ['\\', 'n']
  else if c = '\t' then ['\\', 't']
  else if c = '\r' then ['\\', 'r']
  else if Text.isPrintable c then [c]
  else codePoint c

/-- A text with its quotes. -/
def quote (s : List Char) : List Char :=
  let mark := delimiter s
  [mark] ++ s.flatMap (escape mark) ++ [mark]

end StringOrigins.Quoted
