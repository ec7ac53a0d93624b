import Switchboard.Text.Printable

/-!
# Text — Quoted

A text written as a literal.  Single quotes enclose it unless it holds one and no double quote.
The backslash and the enclosing quote are escaped, line ends and tabulators have escapes of their
own, and every other character that does not show is written by its code point in two, four or
eight hexadecimal digits.
-/

namespace Switchboard.Text

/-- The last `width` hexadecimal digits of a number, in lower case. -/
def hexDigits : Nat → Nat → List Char
  | 0, _ => []
  | width + 1, n => hexDigits width (n / 16) ++ [Nat.digitChar (n % 16)]

/-- A character inside a literal enclosed by `quote`. -/
def quoteChar (quote : Char) (c : Char) : List Char :=
  let n := c.toNat
  if c == quote || c == '\\' then ['\\', c]
  else if c == '\n' then ['\\', 'n']
  else if c == '\r' then ['\\', 'r']
  else if c == '\t' then ['\\', 't']
  else if isPrintable c then [c]
  else if n < 0x100 then '\\' :: 'x' :: hexDigits 2 n
  else if n < 0x10000 then '\\' :: 'u' :: hexDigits 4 n
  else '\\' :: 'U' :: hexDigits 8 n

/-- The quote that encloses the literal of a text. -/
def quoteFor (cs : List Char) : Char :=
  if cs.contains '\'' && !cs.contains '"' then '"' else '\''

/-- The literal of a text, as characters. -/
def quotedChars (cs : List Char) : List Char :=
  quoteFor cs :: cs.flatMap (quoteChar (quoteFor cs)) ++ [quoteFor cs]

/-- A byte inside a literal enclosed by `quote`: like the character of its number, but written in
digits if that is beyond ASCII. -/
def quoteByte (quote : Char) (c : Char) : List Char :=
  let n := c.toNat
  if n < 0x80 then quoteChar quote c else '\\' :: 'x' :: hexDigits 2 n

/-- The literal of a row of bytes without the letter in front, as characters. -/
def quotedByteChars (bytes : List Char) : List Char :=
  quoteFor bytes :: bytes.flatMap (quoteByte (quoteFor bytes)) ++ [quoteFor bytes]

/-- The literal of a text. -/
def quoted (s : String) : String :=
  String.ofList (quotedChars s.toList)

end Switchboard.Text
