import EnvoySidecar.Decimal.Notation
import EnvoySidecar.Text.Blank
import EnvoySidecar.Text.Case
import EnvoySidecar.Text.Property
import EnvoySidecar.Text.Quoted

/-! Integers as texts spell them: digits of any script behind a sign and between blanks. In the base
of ten their number is limited, before anything behind them is looked at. -/

namespace EnvoySidecar.Numeral

open Text

inductive Fault where
  | malformed (base : Nat) (text : String)
  | long (digits : Nat)
deriving DecidableEq, Repr

def shownLimit : Nat := 200

def Fault.message : Fault → String
  | malformed base text =>
    s!"invalid literal for int() with base {base}: " ++
      String.ofList ((quoted text).toList.take shownLimit)
  | long digits => digitCountMessage digits

/-- Digits and blanks of all scripts as those of ASCII; nothing else beyond ASCII is in a number. -/
def plainChar (c : Char) : Char :=
  if c.toNat < 0x7F then c
  else if isSpace c then ' '
  else
    match decimalValue? c with
    | some d => Char.ofNat ('0'.toNat + d)
    | none => '?'

def isPlainBlank (c : Char) : Bool :=
  c = ' ' || ('\t' ≤ c && c ≤ '\r')

def baseLetter? : Nat → Option Char
  | 2 => some 'b'
  | 8 => some 'o'
  | 16 => some 'x'
  | _ => none

def dropBase (base : Nat) : List Char → List Char
  | '0' :: c :: r => if baseLetter? base = some (lowerAsciiChar c) then r else '0' :: c :: r
  | r => r

def isDigitOf (base : Nat) (c : Char) : Bool :=
  isHexDigit c && digitValue c < base

def read (base : Nat) (cs : List Char) : Except Fault Int :=
  let body := (cs.map plainChar).dropWhile isPlainBlank
  let signed := Decimal.splitSign body
  let inside := dropBase base signed.2
  let ds := inside.takeWhile (isDigitOf base)
  let rest := (inside.dropWhile (isDigitOf base)).dropWhile isPlainBlank
  if base = 10 && digitLimit < ds.length then .error (.long ds.length)
  else if ds.isEmpty || !rest.isEmpty then .error (.malformed base (String.ofList cs))
  else
    let n := ofDigits base ds
    .ok (if signed.1 then -(n : Int) else n)

end EnvoySidecar.Numeral
