import EnvoySidecar.Decimal

/-! The usual written form of a decimal: a sign, digits around a point, and a power of ten behind
an `e`. Either side of the point may be empty, but not both. -/

namespace EnvoySidecar.Decimal

open Text

def splitSign : List Char → Bool × List Char
  | '-' :: r => (true, r)
  | '+' :: r => (false, r)
  | r => (false, r)

structure Notation where
  negative : Bool
  whole : List Char
  fraction : List Char
  exponent : Option (Bool × List Char)

namespace Notation

def readExponent : List Char → Option (Option (Bool × List Char))
  | [] => some none
  | c :: r =>
    let e := splitSign r
    if (c == 'e' || c == 'E') && !e.2.isEmpty && e.2.all isDigit then some (some e) else none

def read? (cs : List Char) : Option Notation :=
  let signed := splitSign cs
  let whole := signed.2.takeWhile isDigit
  let rest := signed.2.dropWhile isDigit
  let (fraction, rest) := match rest with
    | '.' :: r => (r.takeWhile isDigit, r.dropWhile isDigit)
    | r => ([], r)
  if whole.isEmpty && fraction.isEmpty then none
  else (readExponent rest).map (⟨signed.1, whole, fraction, ·⟩)

def power (n : Notation) : Int :=
  match n.exponent with
  | none => 0
  | some (negative, ds) => if negative then -(ofDigits 10 ds : Int) else ofDigits 10 ds

def toDecimal (n : Notation) : Decimal :=
  ⟨n.negative, ofDigits 10 (n.whole ++ n.fraction), n.power - n.fraction.length⟩

end Notation

end EnvoySidecar.Decimal
