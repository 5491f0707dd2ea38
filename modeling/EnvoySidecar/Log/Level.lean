import EnvoySidecar.Text.Digits

/-! Log levels and how a text names one: letters in any case, two levels with a second name each,
and everything unknown read as the default. -/

namespace EnvoySidecar.Log

inductive Level where
  | notset
  | debug
  | info
  | warning
  | error
  | critical
deriving DecidableEq, Repr

namespace Level

def number : Level → Nat
  | notset => 0
  | debug => 10
  | info => 20
  | warning => 30
  | error => 40
  | critical => 50

def name : Level → String
  | notset => "NOTSET"
  | debug => "DEBUG"
  | info => "INFO"
  | warning => "WARNING"
  | error => "ERROR"
  | critical => "CRITICAL"

def default : Level := info

/-- Upper case of a character as far as it ends in ASCII letters, which is what names hold. -/
def upperChar (c : Char) : List Char :=
  if 'a' ≤ c && c ≤ 'z' then [Char.ofNat (c.toNat - 32)]
  else match c with
    | 'ß' => ['S', 'S']
    | 'ı' => ['I']
    | 'ſ' => ['S']
    | '\ufb00' => ['F', 'F']
    | '\ufb01' => ['F', 'I']
    | '\ufb02' => ['F', 'L']
    | '\ufb03' => ['F', 'F', 'I']
    | '\ufb04' => ['F', 'F', 'L']
    | '\ufb05' => ['S', 'T']
    | '\ufb06' => ['S', 'T']
    | c => [c]

def upper (s : String) : String :=
  String.ofList (s.toList.flatMap upperChar)

/-- Names that belong to the same vocabulary without naming a level. -/
inductive Fault where
  | recordFormat
  | recordStyles
deriving DecidableEq, Repr

def Fault.message : Fault → String
  | recordFormat => "Unknown level: '%(levelname)s:%(name)s:%(message)s'"
  | recordStyles =>
    "Level not an integer or a valid string: \x7b'%': (<class 'logging.PercentStyle'>, " ++
      "'%(levelname)s:%(name)s:%(message)s'), '\x7b': (<class 'logging.StrFormatStyle'>, " ++
      "'\x7blevelname\x7d:\x7bname\x7d:\x7bmessage\x7d'), " ++
      "'$': (<class 'logging.StringTemplateStyle'>, " ++
      "'$\x7blevelname\x7d:$\x7bname\x7d:$\x7bmessage\x7d')\x7d"

def named? : String → Option (Except Fault Level)
  | "NOTSET" => some (.ok notset)
  | "DEBUG" => some (.ok debug)
  | "INFO" => some (.ok info)
  | "WARN" => some (.ok warning)
  | "WARNING" => some (.ok warning)
  | "ERROR" => some (.ok error)
  | "FATAL" => some (.ok critical)
  | "CRITICAL" => some (.ok critical)
  | "BASIC_FORMAT" => some (.error .recordFormat)
  | "_STYLES" => some (.error .recordStyles)
  | _ => none

def ofText (s : String) : Except Fault Level :=
  (named? (upper s)).getD (.ok default)

end Level

end EnvoySidecar.Log
