import EnvoySidecar.Decimal

/-! Binary floating-point numbers of 64 bits: a finite one is `significand * 2 ^ exponent`, and zero
has a sign. Whatever is computed is exact first and then rounded, a half to the even neighbour. -/

namespace EnvoySidecar

inductive Binary64 where
  | finite (significand : Int) (exponent : Int)
  | negativeZero
  | infinite (negative : Bool)
  | nan
deriving DecidableEq, Repr

namespace Binary64

def roundDiv (n d : Nat) : Nat :=
  let q := n / d
  let r := n % d
  if d < 2 * r || (d = 2 * r && q % 2 = 1) then q + 1 else q

def significandAt (n d : Nat) (e : Int) : Nat :=
  roundDiv (n * Nat.pow 2 (-e).toNat) (d * Nat.pow 2 e.toNat)

def exponentOf (n d : Nat) : Int :=
  let guess : Int := (n.log2 : Int) - d.log2 - 53
  let fits := n * Nat.pow 2 (-guess).toNat / (d * Nat.pow 2 guess.toNat) < Nat.pow 2 53
  max (if fits then guess else guess + 1) (-1074)

def normalize : Nat → Int → Nat → Int × Int
  | 0, e, m => (m, e)
  | fuel + 1, e, m => if m % 2 = 0 && m ≠ 0 then normalize fuel (e + 1) (m / 2) else (m, e)

def zero (negative : Bool) : Binary64 :=
  if negative then .negativeZero else .finite 0 0

def ofRatio (negative : Bool) (n d : Nat) : Binary64 :=
  if n = 0 then zero negative
  else
    let e := exponentOf n d
    let m := significandAt n d e
    if m = 0 then zero negative
    else if 1024 ≤ (m.log2 : Int) + e then .infinite negative
    else
      let me := normalize 54 e m
      .finite (if negative then -me.1 else me.1) me.2

def ofDecimal (d : Decimal) : Binary64 :=
  if d.coefficient = 0 then zero d.negative
  else if 400 < d.leading then .infinite d.negative
  else if d.leading < -400 then zero d.negative
  else ofRatio d.negative (d.coefficient * Nat.pow 10 d.exponent.toNat)
      (Nat.pow 10 (-d.exponent).toNat)

def toInt? : Binary64 → Option Int
  | .finite m e =>
    let unit : Nat := Nat.pow 2 e.natAbs
    if 0 ≤ e then some (m * unit) else if m % unit = 0 then some (m / unit) else none
  | .negativeZero => some 0
  | _ => none

def negate : Binary64 → Binary64
  | .finite m e => if m = 0 then .negativeZero else .finite (-m) e
  | .negativeZero => .finite 0 0
  | .infinite negative => .infinite !negative
  | .nan => .nan

section Arithmetic

def ofScaled (m e : Int) : Binary64 :=
  ofRatio (m < 0) (m.natAbs * Nat.pow 2 e.toNat) (Nat.pow 2 (-e).toNat)

def add : Binary64 → Binary64 → Binary64
  | .nan, _ | _, .nan => .nan
  | .infinite a, .infinite b => if a = b then .infinite a else .nan
  | .infinite a, _ | _, .infinite a => .infinite a
  | .negativeZero, x | x, .negativeZero => x
  | .finite m e, .finite m' e' =>
    let least := min e e'
    ofScaled (m * (Nat.pow 2 (e - least).toNat : Nat) + m' * (Nat.pow 2 (e' - least).toNat : Nat))
      least

def scale? (x : Binary64) (n : Nat) : Option Binary64 :=
  match x, ofScaled n 0 with
  | .finite m e, .finite m' e' => some (ofScaled (m * m') (e + e'))
  | x, .finite .. => some x
  | _, _ => none

end Arithmetic

section Printing

def leadingPower (n d : Nat) : Int :=
  let guess : Int := (Decimal.digitCount n : Int) - Decimal.digitCount d
  if d * Nat.pow 10 guess.toNat ≤ n * Nat.pow 10 (-guess).toNat then guess else guess - 1

def neighbours (n d : Nat) (digits : Nat) : List Decimal :=
  let power := leadingPower n d - digits + 1
  let unit := d * Nat.pow 10 power.toNat
  let scaled := n * Nat.pow 10 (-power).toNat
  let below : Decimal := ⟨false, scaled / unit, power⟩
  let above : Decimal := ⟨false, scaled / unit + 1, power⟩
  if 2 * (scaled % unit) < unit || (2 * (scaled % unit) = unit && scaled / unit % 2 = 0) then
    [below, above]
  else [above, below]

def maxDigits : Nat := 17

def shortest (n d : Nat) : Decimal :=
  let found := (List.range maxDigits).findSome? fun i =>
    (neighbours n d (i + 1)).find? fun c => ofDecimal c = ofRatio false n d
  let c := found.getD ⟨false, n / d, 0⟩
  if c.coefficient = 10 then ⟨false, 1, c.exponent + 1⟩ else c

/-- The decimal that a number is printed as, which has one digit behind its point at least, unless
it is printed with an exponent. -/
def toDecimal? : Binary64 → Option Decimal
  | .finite m e =>
    if m = 0 then some ⟨false, 0, -1⟩
    else
      let c := shortest (m.natAbs * Nat.pow 2 e.toNat) (Nat.pow 2 (-e).toNat)
      let c := { c with negative := m < 0 }
      if 0 ≤ c.exponent ∧ c.leading < 16 then
        let tenths := c.coefficient * Nat.pow 10 (c.exponent + 1).toNat
        some { c with coefficient := tenths, exponent := -1 }
      else some c
  | .negativeZero => some ⟨true, 0, -1⟩
  | _ => none

end Printing

end Binary64

end EnvoySidecar
