import MarkdownLint.Number.Double

/-!
# Shortest decimals

A finite double is the value of every decimal that lies nearer to it than to any other double.
`shortest` finds the one with the fewest digits, and of several with that many the nearest, of two
equally near the even one: for one digit, two digits and so on it tries the two neighbours of the
value on the grid of such decimals until one of them reads back.
-/

namespace MarkdownLint.Double

-- Powers here are the core library's, whatever else the importing module sees.
attribute [local instance (high)] instPowNat

/-- The decimals that read back as a double, as the values from `low / unit` to `high / unit`
around `value / unit`; the ends belong to them if `closed`. -/
structure Interval where
  low : Nat
  value : Nat
  high : Nat
  unit : Nat
  closed : Bool

def interval (m : Nat) (q : Int) : Interval :=
  let below := if m = 2 ^ (52 : Nat) ∧ minExponent < q then 1 else 2
  let scale := if 2 ≤ q then 2 ^ (q - 2).toNat else 1
  let unit := if 2 ≤ q then 1 else 2 ^ (2 - q).toNat
  ⟨(4 * m - below) * scale, 4 * m * scale, (4 * m + 2) * scale, unit, m % 2 = 0⟩

/-- Whether the ratio `num / den` is in the interval. -/
def Interval.holds (i : Interval) (num den : Nat) : Bool :=
  if i.closed then i.low * den ≤ num * i.unit && num * i.unit ≤ i.high * den
  else i.low * den < num * i.unit && num * i.unit < i.high * den

/-- The exponent of the leading digit of `num / den`, found in at most `fuel` steps below 1. -/
def leadingExponent (num den : Nat) : Nat → Int
  | 0 => 0
  | fuel + 1 =>
    if den ≤ num then (Nat.toDigits 10 (num / den)).length - 1
    else leadingExponent (num * 10) den fuel - 1

/-- The neighbour of the value on the grid of the multiples of `10 ^ t` that reads back. -/
def Interval.onGrid? (i : Interval) (t : Int) : Option Nat :=
  let up := 10 ^ t.toNat
  let down := 10 ^ (-t).toNat
  let floor := i.value * down / (i.unit * up)
  match i.holds (floor * up) down, i.holds ((floor + 1) * up) down with
  | true, true => some (divideToEven (i.value * down) (i.unit * up))
  | true, false => some floor
  | false, true => some (floor + 1)
  | false, false => none

/-- Takes the trailing zeros off the digits of a decimal. -/
def trimZeros : Nat → Nat → Int → Nat × Int
  | 0, digits, t => (digits, t)
  | fuel + 1, digits, t =>
    if digits % 10 = 0 ∧ digits ≠ 0 then trimZeros fuel (digits / 10) (t + 1) else (digits, t)

/-- Tries the grids with one digit more each time, from leading exponent `e` and grid `10 ^ t`. -/
def Interval.search (i : Interval) : Nat → Int → Nat × Int
  | 0, t => (i.value / i.unit, t)
  | fuel + 1, t =>
    match i.onGrid? t with
    | some digits => trimZeros 20 digits t
    | none => i.search fuel (t - 1)

/-- Digits `d` and exponent `t` of the shortest decimal `d * 10 ^ t` that reads back as
`m * 2 ^ q`, for a positive `m`. -/
def shortest (m : Nat) (q : Int) : Nat × Int :=
  let i := interval m q
  i.search 18 (leadingExponent i.value i.unit 400)

/-- Exponents of the leading digit from -4 to 15 are written positionally, always with a point;
others with the mark `e`, a sign and at least two digits. -/
def text : Double → String
  | nan _ => "nan"
  | infinite negative => if negative then "-inf" else "inf"
  | finite negative m q =>
    let sign := if negative then "-" else ""
    if m = 0 then sign ++ "0.0" else
    let (d, t) := shortest m q
    let digits := Nat.toDigits 10 d
    let e := t + digits.length - 1
    let zeros (n : Int) : List Char := List.replicate n.toNat '0'
    let body : List Char :=
      if e < -4 ∨ 16 ≤ e then
        let exponent := Nat.toDigits 10 e.natAbs
        digits.take 1 ++ (if digits.length = 1 then [] else '.' :: digits.drop 1)
          ++ ['e', if e < 0 then '-' else '+'] ++ zeros (2 - exponent.length) ++ exponent
      else if e < 0 then '0' :: '.' :: zeros (-e - 1) ++ digits
      else if 0 ≤ t then digits ++ zeros t ++ ['.', '0']
      else digits.take (e + 1).toNat ++ '.' :: digits.drop (e + 1).toNat
    sign ++ String.ofList body

end MarkdownLint.Double
