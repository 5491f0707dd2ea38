import EnvoySidecar.Text.Digits

/-! Signed decimals with a coefficient and a power of ten, so that `1.50` and `1.5` differ and
zero has a sign. `round?` keeps 28 digits, a half going to the even neighbour. -/

namespace EnvoySidecar

structure Decimal where
  negative : Bool
  coefficient : Nat
  exponent : Int
deriving DecidableEq, Repr

namespace Decimal

def precision : Nat := 28
def maxExponent : Int := 999999

/-- Least power of ten that a rounded decimal counts in. -/
def tinyExponent : Int := -1000026

def digitCount (n : Nat) : Nat :=
  (Text.digits n).length

def leading (d : Decimal) : Int :=
  d.exponent + digitCount d.coefficient - 1

/-- `n / 10 ^ k` to the nearest integer, a half to the even neighbour. -/
def roundShift (n k : Nat) : Nat :=
  let unit := Nat.pow 10 k
  let q := n / unit
  let r := n % unit
  if unit < 2 * r || (unit = 2 * r && q % 2 = 1) then q + 1 else q

def roundedExponent (d : Decimal) : Int :=
  max d.exponent (max (d.exponent + digitCount d.coefficient - precision) tinyExponent)

/-- Rounding up from all nines gives one digit too many, which is a zero. -/
def carry (c : Nat) (e : Int) : Nat × Int :=
  if c = Nat.pow 10 precision then (Nat.pow 10 (precision - 1), e + 1) else (c, e)

def round? (d : Decimal) : Option Decimal :=
  if d.coefficient = 0 then
    some { d with exponent := min (max d.exponent tinyExponent) maxExponent }
  else
    let e := roundedExponent d
    let ce := carry (roundShift d.coefficient (e - d.exponent).toNat) e
    let r : Decimal := ⟨d.negative, ce.1, ce.2⟩
    if maxExponent < r.leading then none else some r

def times (d m : Decimal) : Decimal :=
  ⟨d.negative != m.negative, d.coefficient * m.coefficient, d.exponent + m.exponent⟩

def shift (d : Decimal) (e : Int) : Decimal :=
  { d with exponent := d.exponent + e }

def pointed (ds : List Char) (point : Int) : List Char :=
  if 0 < point then
    let p := point.toNat
    if p < ds.length then ds.take p ++ '.' :: ds.drop p else ds
  else '0' :: '.' :: (List.replicate (-point).toNat '0' ++ ds)

def scientific (ds : List Char) (e : Int) : List Char :=
  let body := match ds with
    | d :: rest@(_ :: _) => d :: '.' :: rest
    | _ => ds
  body ++ 'E' :: (if e < 0 then '-' else '+') :: Text.digits e.natAbs

def toInt? (d : Decimal) : Option Int :=
  let unit := Nat.pow 10 d.exponent.natAbs
  let magnitude :=
    if 0 ≤ d.exponent then some (d.coefficient * unit)
    else if d.coefficient % unit = 0 then some (d.coefficient / unit)
    else none
  magnitude.map fun n => if d.negative then -(n : Int) else n

def text (d : Decimal) : List Char :=
  let ds := Text.digits d.coefficient
  let body :=
    if d.exponent ≤ 0 ∧ -6 ≤ d.leading then pointed ds (d.exponent + ds.length)
    else scientific ds d.leading
  if d.negative then '-' :: body else body

def toText (d : Decimal) : String :=
  String.ofList d.text

end Decimal

end EnvoySidecar
