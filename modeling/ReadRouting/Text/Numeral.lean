import ReadRouting.Text.Digit

set_option autoImplicit false
set_option relaxedAutoImplicit false

/-!
# Numerals

Reading an integer from text, and writing one as text.

A numeral is an optional sign and at least one decimal digit, of any script, where a single
underscore may stand between two digits; blanks may surround it. Numerals of more than
`ReadRouting.Text.maxDigits` digits are neither read nor written.

## Main definitions

* `ReadRouting.Text.readInteger?` — the integer a text stands for, if it is a numeral.
* `ReadRouting.Text.writeInteger?` — the numeral of an integer, unless it is too long.
-/

namespace ReadRouting.Text

/-- The most digits a numeral may have, both ways. -/
def maxDigits : Nat := 4300

/-- The digits that follow a first digit; an underscore stands only between two digits. -/
def digitsAfter : List Char → Option (List Nat)
  | [] => some []
  | '_' :: c :: rest => do
    let d ← decimalValue? c
    let ds ← digitsAfter rest
    return d :: ds
  | c :: rest => do
    let d ← decimalValue? c
    let ds ← digitsAfter rest
    return d :: ds

/-- The natural number of a run of digits. -/
def readDigits? : List Char → Option Nat
  | [] => none
  | c :: rest => do
    let d ← decimalValue? c
    let ds ← digitsAfter rest
    if ds.length < maxDigits then
      return ds.foldl (fun n d => 10 * n + d) d
    else
      none

/-- A text without the blanks at its two ends. -/
def trimBlanks (cs : List Char) : List Char :=
  ((cs.dropWhile isBlank).reverse.dropWhile isBlank).reverse

/-- The integer that a list of characters stands for, if it is a numeral. -/
def readSigned? : List Char → Option Int
  | '+' :: rest => (readDigits? rest).map Int.ofNat
  | '-' :: rest => (readDigits? rest).map fun n => -Int.ofNat n
  | rest => (readDigits? rest).map Int.ofNat

/-- The integer a text stands for, if it is a numeral. -/
def readInteger? (s : String) : Option Int :=
  readSigned? (trimBlanks s.toList)

/-- The numeral of an integer, unless it has more than `maxDigits` digits. -/
def writeInteger? (n : Int) : Option String :=
  if n.natAbs < Nat.pow 10 maxDigits then some (toString n) else none

/-! ## Numerals and what is none -/

/-- Blanks, a sign and single underscores are read. -/
example : readInteger? " +1_000 " = some 1000 := by decide +kernel

/-- Two underscores in a row are not. -/
example : readInteger? "1__0" = none := by decide +kernel

/-- A digit of another script is worth what it is worth there. -/
example : readInteger? "-٣" = some (-3) := by decide +kernel

/-- A superscript is a digit, but belongs to no numeral. -/
example : isDigits "²" = true ∧ readInteger? "²" = none := by decide +kernel

end ReadRouting.Text
