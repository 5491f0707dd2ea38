import EnvoySidecar.Quantity.Spelling
import EnvoySidecar.Text.Quoted

/-! Resource quantities such as `250m`, `1.5`, `256Mi` and `1e3`: the text as written together
with its amount in base units, rounded once. -/

namespace EnvoySidecar

inductive ResourceField where
  | cpuRequest
  | memoryRequest
  | cpuLimit
  | memoryLimit
deriving DecidableEq, Repr

namespace ResourceField

def label : ResourceField → String
  | cpuRequest => "cpu request"
  | memoryRequest => "memory request"
  | cpuLimit => "cpu limit"
  | memoryLimit => "memory limit"

def ofLabel? (s : String) : Option ResourceField :=
  [cpuRequest, memoryRequest, cpuLimit, memoryLimit].find? fun f => f.label == s

def unknownMessage (s : String) : String :=
  s!"{Text.quoted s} is not a valid ResourceField"

end ResourceField

structure Quantity where
  raw : String
  amount : Decimal
deriving DecidableEq, Repr

instance : ToString Quantity where
  toString := Quantity.raw

namespace Quantity

inductive Fault where
  | invalid (field : ResourceField) (value : String)
  | overflow
  | longExponent (digits : Nat)
deriving DecidableEq, Repr

def Fault.message : Fault → String
  | invalid field value => s!"Invalid {field.label} quantity: {Text.quoted value}"
  | overflow => "[<class 'decimal.Overflow'>]"
  | longExponent digits => Text.digitCountMessage digits

/-- Greatest shift of the power of ten in either direction. -/
def exponentLimit : Nat := 2000054

inductive Trap where
  | shift
  | overflow
  | longExponent (digits : Nat)
deriving DecidableEq, Repr

def Sign.apply (sign : Sign) (n : Nat) : Int :=
  if sign = .minus then -(n : Int) else n

def rounded (d : Decimal) : Except Trap Decimal :=
  match d.round? with
  | some r => .ok r
  | none => .error .overflow

def Scale.apply (d : Decimal) : Scale → Except Trap Decimal
  | .suffix s => rounded (d.times s.multiple)
  | .exponent _ sign digits =>
    if Text.digitLimit < digits.length then .error (.longExponent digits.length)
    else
      let e := Text.ofDigits 10 digits
      if exponentLimit < e then .error .shift
      else rounded (d.shift (sign.apply e))

def Spelling.amount (w : Spelling) : Except Trap Decimal :=
  w.scale.apply w.numeral.amount

def Trap.fault (field : ResourceField) (value : String) : Trap → Fault
  | shift => .invalid field value
  | overflow => .overflow
  | longExponent digits => .longExponent digits

def parse (field : ResourceField) (value : String) : Except Fault Quantity :=
  match Spelling.read? value.toList with
  | none => .error (.invalid field value)
  | some w =>
    match w.amount with
    | .ok amount => .ok ⟨value, amount⟩
    | .error trap => .error (trap.fault field value)

end Quantity

end EnvoySidecar
