import EnvoySidecar.Decimal

/-! The grammar of resource quantities. A `Spelling` keeps every choice its writer made, so that
`text` gives back what `read?` took apart. -/

namespace EnvoySidecar.Quantity

open Text

inductive Sign where
  | none
  | plus
  | minus
deriving DecidableEq, Repr

def Sign.text : Sign → List Char
  | .none => []
  | .plus => ['+']
  | .minus => ['-']

def Sign.split : List Char → Sign × List Char
  | '+' :: r => (.plus, r)
  | '-' :: r => (.minus, r)
  | r => (.none, r)

inductive Suffix where
  | nano | micro | milli | unit | kilo | mega | giga | tera | peta | exa
  | kibi | mebi | gibi | tebi | pebi | exbi
deriving DecidableEq, Repr

namespace Suffix

def text : Suffix → List Char
  | nano => ['n'] | micro => ['u'] | milli => ['m'] | unit => []
  | kilo => ['k'] | mega => ['M'] | giga => ['G'] | tera => ['T'] | peta => ['P'] | exa => ['E']
  | kibi => ['K', 'i'] | mebi => ['M', 'i'] | gibi => ['G', 'i']
  | tebi => ['T', 'i'] | pebi => ['P', 'i'] | exbi => ['E', 'i']

def all : List Suffix :=
  [nano, micro, milli, unit, kilo, mega, giga, tera, peta, exa,
    kibi, mebi, gibi, tebi, pebi, exbi]

def ofText? (cs : List Char) : Option Suffix :=
  all.find? fun s => s.text == cs

def factor : Suffix → Nat
  | kibi => 1024 | mebi => Nat.pow 1024 2 | gibi => Nat.pow 1024 3
  | tebi => Nat.pow 1024 4 | pebi => Nat.pow 1024 5 | exbi => Nat.pow 1024 6
  | _ => 1

def power : Suffix → Int
  | nano => -9 | micro => -6 | milli => -3
  | kilo => 3 | mega => 6 | giga => 9 | tera => 12 | peta => 15 | exa => 18
  | _ => 0

def multiple (s : Suffix) : Decimal :=
  ⟨false, s.factor, s.power⟩

end Suffix

structure Numeral where
  sign : Sign
  whole : List Char
  fraction : Option (List Char)
deriving DecidableEq, Repr

inductive Scale where
  | suffix (s : Suffix)
  | exponent (letter : Char) (sign : Sign) (digits : List Char)
deriving DecidableEq, Repr

structure Spelling where
  numeral : Numeral
  scale : Scale
deriving DecidableEq, Repr

namespace Numeral

def text (n : Numeral) : List Char :=
  n.sign.text ++ n.whole ++ (match n.fraction with
    | none => []
    | some f => '.' :: f)

def WellFormed (n : Numeral) : Prop :=
  n.whole.all isDigit ∧ (n.fraction.getD []).all isDigit ∧
    (n.whole ≠ [] ∨ n.fraction.getD [] ≠ [])

instance (n : Numeral) : Decidable n.WellFormed := by
  unfold WellFormed; infer_instance

def amount (n : Numeral) : Decimal :=
  let f := n.fraction.getD []
  ⟨n.sign = .minus, ofDigits 10 (n.whole ++ f), -(f.length : Int)⟩

end Numeral

namespace Scale

def text : Scale → List Char
  | suffix s => s.text
  | exponent letter sign digits => letter :: (sign.text ++ digits)

def WellFormed : Scale → Prop
  | suffix _ => True
  | exponent letter _ digits =>
    (letter = 'e' ∨ letter = 'E') ∧ digits ≠ [] ∧ digits.all isDigit

def exponent? : List Char → Option Scale
  | [] => none
  | letter :: r =>
    let sd := Sign.split r
    if (letter = 'e' ∨ letter = 'E') ∧ sd.2 ≠ [] ∧ sd.2.all isDigit then
      some (exponent letter sd.1 sd.2)
    else none

def read? (cs : List Char) : Option Scale :=
  match exponent? cs with
  | some s => some s
  | none => (Suffix.ofText? cs).map suffix

end Scale

namespace Spelling

def text (w : Spelling) : List Char :=
  w.numeral.text ++ w.scale.text

def WellFormed (w : Spelling) : Prop :=
  w.numeral.WellFormed ∧ w.scale.WellFormed

def splitFraction : List Char → Option (List Char) × List Char
  | '.' :: r => (some (r.takeWhile isDigit), r.dropWhile isDigit)
  | r => (none, r)

def read? (cs : List Char) : Option Spelling :=
  let signed := Sign.split cs
  let whole := signed.2.takeWhile isDigit
  let rest := splitFraction (signed.2.dropWhile isDigit)
  let numeral : Numeral := ⟨signed.1, whole, rest.1⟩
  if numeral.WellFormed then (Scale.read? rest.2).map (⟨numeral, ·⟩) else none

end Spelling

end EnvoySidecar.Quantity
