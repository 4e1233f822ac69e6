set_option autoImplicit false
set_option relaxedAutoImplicit false

/-!
# Digits and blanks beyond ASCII

Which Unicode 14 characters count as digits, what they are worth, and which count as blank.

## Main definitions

* `ReadRouting.Text.decimalValue?` — the value of a decimal digit of any script.
* `ReadRouting.Text.isDigitLike` — decimal digits together with superscripts, circled
  digits and the like, which look like digits but stand in no positional numeral.
* `ReadRouting.Text.isWideBlank` — the blanks outside ASCII.
-/

namespace ReadRouting.Text

/-- The zero of each script that has decimal digits; the other nine follow it. -/
def zeros : List Nat :=
  [0x30, 0x660, 0x6f0, 0x7c0, 0x966, 0x9e6, 0xa66, 0xae6, 0xb66, 0xbe6, 0xc66, 0xce6, 0xd66,
   0xde6, 0xe50, 0xed0, 0xf20, 0x1040, 0x1090, 0x17e0, 0x1810, 0x1946, 0x19d0, 0x1a80, 0x1a90,
   0x1b50, 0x1bb0, 0x1c40, 0x1c50, 0xa620, 0xa8d0, 0xa900, 0xa9d0, 0xa9f0, 0xaa50, 0xabf0, 0xff10,
   0x104a0, 0x10d30, 0x11066, 0x110f0, 0x11136, 0x111d0, 0x112f0, 0x11450, 0x114d0, 0x11650,
   0x116c0, 0x11730, 0x118e0, 0x11950, 0x11c50, 0x11d50, 0x11da0, 0x16a60, 0x16ac0, 0x16b50,
   0x1d7ce, 0x1d7d8, 0x1d7e2, 0x1d7ec, 0x1d7f6, 0x1e140, 0x1e2f0, 0x1e950, 0x1fbf0]

/-- The value of a decimal digit of any script. -/
def decimalValue? (c : Char) : Option Nat :=
  (zeros.find? fun z => z ≤ c.toNat && c.toNat < z + 10).map (c.toNat - ·)

/-- The digits that belong to no positional numeral: superscripts, circled digits, ... -/
def looseDigits : List (Nat × Nat) :=
  [(0xb2, 0xb3), (0xb9, 0xb9), (0x1369, 0x1371), (0x19da, 0x19da), (0x2070, 0x2070),
   (0x2074, 0x2079), (0x2080, 0x2089), (0x2460, 0x2468), (0x2474, 0x247c), (0x2488, 0x2490),
   (0x24ea, 0x24ea), (0x24f5, 0x24fd), (0x24ff, 0x24ff), (0x2776, 0x277e), (0x2780, 0x2788),
   (0x278a, 0x2792), (0x10a40, 0x10a43), (0x10e60, 0x10e68), (0x11052, 0x1105a),
   (0x1f100, 0x1f10a)]

/-- Whether a character is a digit of any sort. -/
def isDigitLike (c : Char) : Bool :=
  (decimalValue? c).isSome || looseDigits.any fun r => r.1 ≤ c.toNat && c.toNat ≤ r.2

/-- Whether a text is non-empty and all of digits of any sort. -/
def isDigits (s : String) : Bool :=
  !s.isEmpty && s.toList.all isDigitLike

/-- The blanks outside ASCII. -/
def wideBlanks : List (Nat × Nat) :=
  [(0x85, 0x85), (0xa0, 0xa0), (0x1680, 0x1680), (0x2000, 0x200a), (0x2028, 0x2029),
   (0x202f, 0x202f), (0x205f, 0x205f), (0x3000, 0x3000)]

/-- Whether a character is a blank outside ASCII. -/
def isWideBlank (c : Char) : Bool :=
  wideBlanks.any fun r => r.1 ≤ c.toNat && c.toNat ≤ r.2

/-- Whether a character may surround a numeral: the six ASCII blanks and the wide ones. -/
def isBlank (c : Char) : Bool :=
  c.toNat = 0x20 || (0x09 ≤ c.toNat && c.toNat ≤ 0x0d) || isWideBlank c

end ReadRouting.Text
