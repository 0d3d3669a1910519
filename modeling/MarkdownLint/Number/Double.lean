/-!
# Double precision numbers

A number of double precision is a sign, a mantissa `m` below `2 ^ 53` and an exponent `q` of at
least `-1074`, and stands for `m * 2 ^ q`; unless `q = -1074` the mantissa is at least `2 ^ 52`, so
each number has one form.  Beside these there are two infinities and values that are no numbers.
Each of those differs from all others, so they carry a serial number.
-/

namespace MarkdownLint

-- Powers here are the core library's, whatever else the importing module sees.
attribute [local instance (high)] instPowNat

inductive Double
  | finite (negative : Bool) (mantissa : Nat) (exponent : Int)
  | infinite (negative : Bool)
  | nan (serial : Nat)
  deriving DecidableEq

namespace Double

def minExponent : Int := -1074

def maxExponent : Int := 971

/-- The quotient of naturals, rounded to the nearest, a half to the even neighbour. -/
def divideToEven (num den : Nat) : Nat :=
  let quotient := num / den
  let rest := num % den
  if 2 * rest < den then quotient
  else if den < 2 * rest then quotient + 1
  else quotient + quotient % 2

/-- `num / den / 2 ^ q`, rounded. -/
def scaled (num den : Nat) (q : Int) : Nat :=
  if 0 ≤ q then divideToEven num (den * 2 ^ q.toNat) else divideToEven (num * 2 ^ (-q).toNat) den

/-- The double nearest to `num / den`; of two the one with the even mantissa. -/
def ofRatio (negative : Bool) (num den : Nat) : Double :=
  let least : Int := (Nat.log2 num : Int) - Nat.log2 den - 53
  let fit (q : Int) : Double :=
    let m := scaled num den q
    let (m, q) := if m = 2 ^ (53 : Nat) then (2 ^ (52 : Nat), q + 1) else (m, q)
    if maxExponent < q then infinite negative else finite negative m q
  if num = 0 then finite negative 0 minExponent
  else if least < minExponent then fit minExponent
  else if num * 2 ^ (-least).toNat < 2 ^ (53 : Nat) * (den * 2 ^ least.toNat) then fit least
  else fit (least + 1)

/-- The double nearest to `digits * 10 ^ exponent`. -/
def ofDecimal (negative : Bool) (digits : Nat) (exponent : Int) : Double :=
  let magnitude : Int := (Nat.toDigits 10 digits).length + exponent
  if digits = 0 then finite negative 0 minExponent
  else if 400 < magnitude then infinite negative
  else if magnitude < -400 then finite negative 0 minExponent
  else if 0 ≤ exponent then ofRatio negative (digits * 10 ^ exponent.toNat) 1
  else ofRatio negative digits (10 ^ (-exponent).toNat)

def negate : Double → Double
  | finite negative m q => finite (!negative) m q
  | infinite negative => infinite (!negative)
  | nan serial => nan serial

/-- The double nearest to `n * 2 ^ q`. -/
def ofScaled (n : Int) (q : Int) : Double :=
  ofRatio (n < 0) (n.natAbs * 2 ^ q.toNat) (2 ^ (-q).toNat)

/-- A number times a natural, rounded. -/
def scale (x : Double) (n : Nat) : Double :=
  match x with
  | finite negative m q => ofScaled (if negative then -(m * n : Nat) else (m * n : Nat)) q
  | x => x

/-- The sum of two numbers, rounded; `serial` is for the sum of infinities of both signs. -/
def add (serial : Nat) (x y : Double) : Double :=
  match x, y with
  | nan s, _ => nan s
  | _, nan s => nan s
  | infinite s, infinite t => if s = t then infinite s else nan serial
  | infinite s, _ => infinite s
  | _, infinite s => infinite s
  | finite s m p, finite t n q =>
    let least := min p q
    let signed (negative : Bool) (m : Nat) (q : Int) : Int :=
      if negative then -(m * 2 ^ (q - least).toNat : Nat) else (m * 2 ^ (q - least).toNat : Nat)
    ofScaled (signed s m p + signed t n q) least

def isNegative : Double → Bool
  | finite negative _ _ => negative
  | infinite negative => negative
  | nan _ => false

/-- The integer a whole number is. -/
def toInt? : Double → Option Int
  | finite negative m q =>
    let signed (n : Nat) : Int := if negative then -n else n
    if 0 ≤ q then some (signed (m * 2 ^ q.toNat))
    else if m % 2 ^ (-q).toNat = 0 then some (signed (m / 2 ^ (-q).toNat))
    else none
  | _ => none

/-- Equality as numbers: the two zeros are equal, and a value that is no number is equal to itself
alone. -/
def same : Double → Double → Bool
  | finite _ 0 _, finite _ 0 _ => true
  | x, y => x = y

end Double

end MarkdownLint
