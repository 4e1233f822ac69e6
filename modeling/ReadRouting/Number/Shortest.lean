import ReadRouting.Number.Binary64

set_option autoImplicit false
set_option relaxedAutoImplicit false

/-!
# Shortest decimals

The text of a binary64 number: the fewest significant digits that read back as the same
number, and of those the nearest to it.

A number reads back as `x` when it lies between the midpoints to the two neighbours of `x`,
the midpoints included when the significand of `x` is even. For 1, 2, ... digits the two
points of the decimal grid around `x` are tried; the first grid with a hit gives the digits.

## Main definitions

* `ReadRouting.Binary64.shortest` — the digits and the decimal exponent.
* `ReadRouting.Binary64.text` — how a binary64 number is shown: positional from `10 ^ -4` up
  to below `10 ^ 16`, with at least one decimal, and with an exponent of at least two digits
  elsewhere.
-/

namespace ReadRouting.Binary64

/-- The power of ten as a rational. -/
def pow10 (k : Int) : Rat :=
  if 0 ≤ k then ((Nat.pow 10 k.toNat : Nat) : Int) else mkRat 1 (Nat.pow 10 (-k).toNat)

/-- The power of two as a rational. -/
def pow2 (k : Int) : Rat := scaled 1 k

/-- The `k` with `10 ^ k ≤ v < 10 ^ (k + 1)` for a positive `v` of binary magnitude `b`, that
is `2 ^ b ≤ v < 2 ^ (b + 1)`: an estimate from `b` that is at most one too low. -/
def decimalExponent (v : Rat) (b : Int) : Int :=
  let estimate := Int.fdiv (b * 30103) 100000
  let low := if v < pow10 estimate then estimate - 1 else estimate
  if pow10 (low + 1) ≤ v then low + 1 else low

/-- The numbers that read back as a given one. -/
structure Interval where
  low : Rat
  high : Rat
  closed : Bool

/-- Whether a number lies in an interval. -/
def Interval.holds (i : Interval) (q : Rat) : Bool :=
  if i.closed then i.low ≤ q && q ≤ i.high else i.low < q && q < i.high

/-- The numbers that read back as the binary64 number of significand `m` and exponent `e`. The
gap below a power of two is half the gap above, unless it is the least normal number. -/
def readsBack (m : Nat) (e : Int) : Interval :=
  let v := scaled m e
  let half := pow2 (e - 1)
  let below := if m = Nat.pow 2 52 && -1074 < e then pow2 (e - 2) else half
  ⟨v - below, v + half, m % 2 = 0⟩

/-- The point of the decimal grid of step `10 ^ k` that lies in the interval and is nearest to
`v`, if one of the two around `v` lies in it; an exact tie goes to the even one. -/
def gridPoint? (v : Rat) (i : Interval) (k : Int) : Option Nat :=
  let scaledValue := v / pow10 k
  let below := scaledValue.floor.toNat
  let above := below + 1
  let fitsBelow := 0 < below && i.holds ((below : Int) * pow10 k)
  let fitsAbove := i.holds ((above : Int) * pow10 k)
  let nearest := (roundHalfEven scaledValue).toNat
  if fitsBelow && fitsAbove then some nearest
  else if fitsBelow then some below
  else if fitsAbove then some above
  else none

/-- The first grid with a hit, from `k` downwards; seventeen digits always suffice. -/
def firstGrid (v : Rat) (i : Interval) : Nat → Int → Nat × Int
  | 0, k => ((roundHalfEven (v / pow10 k)).toNat, k)
  | tries + 1, k =>
    match gridPoint? v i k with
    | some d => (d, k)
    | none => firstGrid v i tries (k - 1)

/-- A positive number `d · 10 ^ k` as the digits of its significand, without zeros at the
end, and the exponent of its first digit. -/
def significantDigits (d : Nat) (k : Int) : List Char × Int :=
  let digits := Nat.toDigits 10 d
  ((digits.reverse.dropWhile (· == '0')).reverse, k + digits.length - 1)

/-- The shortest digits that read back as the binary64 number of significand `m` and exponent
`e`, and the exponent of the first digit. -/
def shortest (m : Nat) (e : Int) : List Char × Int :=
  let v := scaled m e
  let first := decimalExponent v (m.log2 + e)
  let (d, k) := firstGrid v (readsBack m e) 16 first
  significantDigits d k

/-- Digits with the point after the first `whole` of them, padded with zeros on both sides. -/
def positional (digits : List Char) (exponent : Int) : List Char :=
  if exponent < 0 then
    '0' :: '.' :: List.replicate (-exponent - 1).toNat '0' ++ digits
  else
    let whole := exponent.toNat + 1
    let padded := digits ++ List.replicate (whole - digits.length) '0'
    let fraction := padded.drop whole
    padded.take whole ++ '.' :: (if fraction.isEmpty then ['0'] else fraction)

/-- Digits with the point after the first, and an exponent of at least two digits. -/
def scientific (digits : List Char) (exponent : Int) : List Char :=
  let fraction := digits.drop 1
  let places := Nat.toDigits 10 exponent.natAbs
  digits.take 1 ++ (if fraction.isEmpty then [] else '.' :: fraction) ++
    'e' :: (if exponent < 0 then '-' else '+') ::
      (if places.length < 2 then '0' :: places else places)

/-- The text of a finite number from its parts, sign aside. -/
def magnitudeText (m : Nat) (e : Int) : List Char :=
  if m = 0 then ['0', '.', '0']
  else
    let (digits, exponent) := shortest m e
    if -4 ≤ exponent && exponent < 16 then positional digits exponent
    else scientific digits exponent

/-- How the binary64 number of a bit pattern is shown. -/
def textOfBits (bits : Nat) : String :=
  let sign := if bits / Nat.pow 2 63 % 2 = 1 then ['-'] else []
  match exactBits bits with
  | .nan => "nan"
  | .infinite _ => String.ofList (sign ++ ['i', 'n', 'f'])
  | .finite _ =>
    let (m, e) := parts bits
    String.ofList (sign ++ magnitudeText m e)

/-- How a binary64 number is shown. -/
def text (x : Float) : String := textOfBits x.toBits.toNat

/-! ## Written forms -/

/-- One tenth has one digit, though it is not exact. -/
example : textOfBits 0x3fb999999999999a = "0.1" := by decide +kernel

/-- The least positive number. -/
example : textOfBits 1 = "5e-324" := by decide +kernel

/-- Positional notation ends below `10 ^ 16`. -/
example : textOfBits 0x4341c37937e08000 = "1e+16" := by decide +kernel

/-- The sign stands in front, also of zero. -/
example : textOfBits 0x8000000000000000 = "-0.0" := by decide +kernel

/-- A number with a fraction. -/
example : textOfBits 0xc0fe240c9fbe76c9 = "-123456.789" := by decide +kernel

end ReadRouting.Binary64
