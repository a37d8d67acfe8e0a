import ChipEight.Text.Printable

/-!
# Quoted text

Text between quotes, as error reports show it.  Single quotes are used unless
the text holds single quotes and no double ones.  The quote, the backslash and
every character that is not printable are escaped.
-/

namespace ChipEight.Text.Quoted

/-- The lower-case hexadecimal digit for a value below sixteen. -/
def lowerDigit (n : Nat) : Char := Char.ofNat (if n < 10 then 48 + n else 87 + n)

/-- The last `width` hexadecimal digits of a number. -/
def lowerDigits : Nat → Nat → List Char
  | 0, _ => []
  | width + 1, n => lowerDigits width (n / 16) ++ [lowerDigit (n % 16)]

/-- The escape of a code point, with two, four or eight digits. -/
def codeEscape (n : Nat) : List Char :=
  if n < 0x100 then '\\' :: 'x' :: lowerDigits 2 n
  else if n < 0x10000 then '\\' :: 'u' :: lowerDigits 4 n
  else '\\' :: 'U' :: lowerDigits 8 n

/-- One character of a text within the given quotes. -/
def escape (quote c : Char) : List Char :=
  if c == quote || c == '\\' then ['\\', c]
  else if c == '\t' then ['\\', 't']
  else if c == '\n' then ['\\', 'n']
  else if c == '\r' then ['\\', 'r']
  else if Printable.isPrintable c then [c]
  else codeEscape c.toNat

/-- The quote that suits a text. -/
def quoteFor (s : List Char) : Char :=
  if s.contains '\'' && !s.contains '"' then '"' else '\''

/-- A text between quotes. -/
def quote (s : String) : String :=
  let q := quoteFor s.toList
  String.ofList (q :: s.toList.flatMap (escape q) ++ [q])

end ChipEight.Text.Quoted
