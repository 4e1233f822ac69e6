import ReadRouting.Text.Printable

set_option autoImplicit false
set_option relaxedAutoImplicit false

/-!
# Quoted text

How texts and byte strings are shown inside messages: between quotes, with everything that
could not be told apart on a screen escaped.

A single quote is used unless the content holds a single quote and no double quote. The
backslash and the quote in use are escaped, as are line feed, carriage return and tab; other
unprintable characters are written by their code point.

## Main definitions

* `ReadRouting.Text.quoted` — a text between quotes.
* `ReadRouting.Text.quotedBytes` — a byte string between quotes, marked with a `b`.
-/

namespace ReadRouting.Text

/-- The lower-case hexadecimal numeral of a number in a fixed number of places. -/
def hexadecimal : Nat → Nat → List Char
  | 0, _ => []
  | places + 1, n => hexadecimal places (n / 16) ++ [Nat.digitChar (n % 16)]

/-- The quote for a content: double only if it spares escaping a single one. -/
def quoteFor (cs : List Char) : Char :=
  if cs.contains '\'' && !cs.contains '"' then '"' else '\''

/-- The escapes that do not depend on which characters are printable. -/
def shortEscape? (quote c : Char) : Option (List Char) :=
  if c = quote || c = '\\' then some ['\\', c]
  else if c = '\n' then some ['\\', 'n']
  else if c = '\r' then some ['\\', 'r']
  else if c = '\t' then some ['\\', 't']
  else none

/-- A character written by its code point, in the shortest of the three forms. -/
def codeEscape (c : Char) : List Char :=
  if c.toNat < 0x100 then '\\' :: 'x' :: hexadecimal 2 c.toNat
  else if c.toNat < 0x10000 then '\\' :: 'u' :: hexadecimal 4 c.toNat
  else '\\' :: 'U' :: hexadecimal 8 c.toNat

/-- One character as it stands inside quotes. -/
def escaped (quote c : Char) : List Char :=
  (shortEscape? quote c).getD (if isPrintable c then [c] else codeEscape c)

/-- A text between quotes. -/
def quoted (s : String) : String :=
  let quote := quoteFor s.toList
  String.ofList (quote :: s.toList.flatMap (escaped quote) ++ [quote])

/-- One byte as it stands inside quotes: only ASCII is shown as it is. -/
def escapedByte (quote c : Char) : List Char :=
  (shortEscape? quote c).getD
    (if 0x20 ≤ c.toNat && c.toNat < 0x7f then [c] else codeEscape c)

/-- A byte string between quotes, marked with a `b`. -/
def quotedBytes (bs : List UInt8) : String :=
  let cs := bs.map fun b => Char.ofNat b.toNat
  let quote := quoteFor cs
  String.ofList ('b' :: quote :: cs.flatMap (escapedByte quote) ++ [quote])

/-! ## Written forms -/

/-- A text with a single quote is put between double ones. -/
example : quoted "it's" = "\"it's\"" := by decide +kernel

/-- A text with both quotes is put between single ones. -/
example : quoted "'\"" = "'\\'\"'" := by decide +kernel

/-- Line feeds have a short escape, other controls are written by their code point. -/
example : quoted "a\n\x00" = "'a\\n\\x00'" := by decide +kernel

/-- Bytes beyond ASCII are always escaped. -/
example : quotedBytes [0x61, 0xe9] = "b'a\\xe9'" := by decide +kernel

end ReadRouting.Text
