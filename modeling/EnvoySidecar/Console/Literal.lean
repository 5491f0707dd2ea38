import EnvoySidecar.Decimal.Notation
import EnvoySidecar.Text.Case
import EnvoySidecar.Text.Lines
import EnvoySidecar.Value

/-! Literals of a programming language, as handlers in markup take them: numbers, texts, octets,
constants, and tuples, sets and maps of them. Only whether a text is one matters here, and for that
which values may stand in a set and which numbers may be added. -/

namespace EnvoySidecar.Console.Literal

open Text

inductive Number where
  | integer (fits : Bool)
  | real
  | imaginary
deriving DecidableEq, Repr

/-- What the rest of a literal depends on. A number counts as such as long as no sign stands before
it, and `maker` is the name of sets, which is a value only when it is called. -/
inductive Kind where
  | number (n : Number)
  | signed (n : Number)
  | maker
  | hashable
  | unhashable
deriving DecidableEq, Repr

inductive Token where
  | number (n : Number)
  | text (octets : Bool)
  | constant
  | maker
  | mark (c : Char)
  | lineEnd
deriving DecidableEq, Repr

/-- Beyond ASCII everything counts as part of a name. -/
def isNamePart (c : Char) : Bool :=
  c.isAlphanum || c = '_' || 0x80 ≤ c.toNat

section Numbers

def splitDigits (p : Char → Bool) : List Char → List Char × List Char
  | '_' :: c :: r =>
    if p c then
      let s := splitDigits p r
      (c :: s.1, s.2)
    else ([], '_' :: c :: r)
  | c :: r =>
    if p c then
      let s := splitDigits p r
      (c :: s.1, s.2)
    else ([], c :: r)
  | [] => ([], [])

def digits (p : Char → Bool) (cs : List Char) : List Char × List Char :=
  if cs.head?.any p then splitDigits p cs else ([], cs)

def integer (n : Nat) : Number :=
  .integer (match Binary64.ofRatio false n 1 with
    | .infinite _ => false
    | _ => true)

def isBaseDigit (letter c : Char) : Bool :=
  match letter with
  | 'x' => isHexDigit c
  | 'o' => '0' ≤ c && c ≤ '7'
  | _ => c = '0' || c = '1'

def base (letter : Char) : Nat :=
  match letter with
  | 'x' => 16
  | 'o' => 8
  | _ => 2

def baseNumber (letter : Char) (cs : List Char) : Option (Number × List Char) :=
  let s := digits (isBaseDigit letter) (if cs.head? = some '_' then cs.drop 1 else cs)
  if s.1.isEmpty then none else some (integer (ofDigits (base letter) s.1), s.2)

def exponent (cs : List Char) : Bool × List Char :=
  match cs with
  | c :: r =>
    let s := digits isDigit (Decimal.splitSign r).2
    if lowerAsciiChar c = 'e' && !s.1.isEmpty then (true, s.2) else (false, cs)
  | [] => (false, [])

/-- Noughts may come before other digits only in numbers that are no integers. -/
def decimalNumber (cs : List Char) : Option (Number × List Char) :=
  let whole := digits isDigit cs
  let point := whole.2.head? = some '.'
  let fraction := if point then digits isDigit (whole.2.drop 1) else ([], whole.2)
  let power := exponent fraction.2
  if whole.1.isEmpty && fraction.1.isEmpty then none
  else if power.2.head?.any fun c => lowerAsciiChar c = 'j' then
    some (.imaginary, power.2.drop 1)
  else if point || power.1 then some (.real, power.2)
  else if whole.1.all (· = '0') then some (integer 0, power.2)
  else if whole.1.head? = some '0' || digitLimit < whole.1.length then none
  else some (integer (ofDigits 10 whole.1), power.2)

def number? (cs : List Char) : Option (Number × List Char) := do
  let s ← match cs with
    | '0' :: c :: r =>
      if ['x', 'o', 'b'].contains (lowerAsciiChar c) then baseNumber (lowerAsciiChar c) r
      else decimalNumber cs
    | _ => decimalNumber cs
  if s.2.head?.any isNamePart then none else some s

end Numbers

section Texts

variable (named : String → Bool)

def isQuote (c : Char) : Bool :=
  c = '\'' || c = '"'

def splitPrefix? : List Char → Option (Bool × Bool × List Char)
  | a :: r =>
    if isQuote a then some (false, false, a :: r)
    else
      match r with
      | b :: r' =>
        if isQuote b then
          match lowerAsciiChar a with
          | 'b' => some (true, false, r)
          | 'r' => some (false, true, r)
          | 'u' => some (false, false, r)
          | _ => none
        else if r'.head?.any isQuote then
          match lowerAsciiChar a, lowerAsciiChar b with
          | 'b', 'r' | 'r', 'b' => some (true, true, r')
          | _, _ => none
        else none
      | [] => none
  | [] => none

def splitBody (close : List Char) : List Char → Option (List Char × List Char)
  | '\\' :: c :: r => (splitBody close r).map fun s => ('\\' :: c :: s.1, s.2)
  | c :: r =>
    if close.isPrefixOf (c :: r) then some ([], (c :: r).drop close.length)
    else if c = '\n' && close.length = 1 then none
    else (splitBody close r).map fun s => (c :: s.1, s.2)
  | [] => none

def quotedBody : List Char → Option (List Char × List Char)
  | q :: r =>
    if r.take 2 = [q, q] then splitBody [q, q, q] (r.drop 2) else splitBody [q] r
  | [] => none

def isCode (width : Nat) (cs : List Char) : Bool :=
  let ds := cs.take width
  ds.length = width && ds.all isHexDigit && ofDigits 16 ds ≤ 0x10FFFF

def areEscapes (octets : Bool) : List Char → Bool
  | '\\' :: c :: r =>
    (match c with
      | 'x' => isCode 2 r
      | 'u' => octets || isCode 4 r
      | 'U' => octets || isCode 8 r
      | 'N' =>
        octets ||
          (r.head? = some '\x7b' && r.contains '\x7d' &&
            named (String.ofList ((r.drop 1).takeWhile (· != '\x7d'))))
      | _ => true) && areEscapes octets r
  | _ :: r => areEscapes octets r
  | [] => true

def text? (cs : List Char) : Option (Bool × List Char) := do
  let (octets, raw, r) ← splitPrefix? cs
  let (body, rest) ← quotedBody r
  if octets && body.any fun c => 0x80 ≤ c.toNat then none
  else if raw || areEscapes named octets body then some (octets, rest)
  else none

end Texts

section Tokens

variable (named : String → Bool)

def isGap (c : Char) : Bool :=
  c = ' ' || c = '\t' || c = '\x0c'

def isMark (c : Char) : Bool :=
  "()\x7b\x7d,:+-".toList.contains c

def openers : List Char := ['(', '\x7b']
def closers : List Char := [')', '\x7d']

def depthLimit : Nat := 200

def constants : List String := ["True", "False", "None"]

def name? (cs : List Char) : Option (Token × List Char) :=
  let name := String.ofList (cs.takeWhile isNamePart)
  let rest := cs.dropWhile isNamePart
  if constants.contains name then some (.constant, rest)
  else if name = "set" then some (.maker, rest)
  else none

def word? (cs : List Char) : Option (Token × List Char) :=
  match number? cs with
  | some s => some (.number s.1, s.2)
  | none =>
    match text? named cs with
    | some s => some (.text s.1, s.2)
    | none => if "...".toList.isPrefixOf cs then some (.constant, cs.drop 3) else name? cs

def tokens : Nat → Nat → List Char → Option (List Token)
  | 0, _, _ => none
  | _ + 1, _, [] => some []
  | fuel + 1, depth, c :: r =>
    if isGap c then tokens fuel depth r
    else if c = '#' then tokens fuel depth (r.dropWhile (· != '\n'))
    else if c = '\\' then
      match r with
      | '\n' :: d :: r' => tokens fuel depth (d :: r')
      | _ => none
    else if c = '\n' then
      if depth = 0 then (tokens fuel depth r).map (.lineEnd :: ·) else tokens fuel depth r
    else if isMark c then
      let inside := if openers.contains c then depth + 1 else if closers.contains c then depth - 1
        else depth
      if depthLimit < inside then none else (tokens fuel inside r).map (.mark c :: ·)
    else do
      let (t, rest) ← word? named (c :: r)
      return t :: (← tokens fuel depth rest)

def isIndented : Nat → Bool → Bool → List Char → Bool
  | fuel + 1, before, indented, c :: r =>
    if c = ' ' || c = '\t' then isIndented fuel before true r
    else if c = '\x0c' then isIndented fuel before false r
    else if c = '\n' then isIndented fuel false false r
    else if c = '#' then isIndented fuel false false (r.dropWhile (· != '\n'))
    else if c = '\\' && r.head? = some '\n' then
      isIndented fuel (before || indented) indented (r.drop 1)
    else before || indented
  | _, _, _, _ => false

end Tokens

section Values

def negated : Kind → Option Kind
  | .number n => some (.signed n)
  | _ => none

def sum : Kind → Kind → Option Kind
  | .number n, .number .imaginary | .signed n, .number .imaginary =>
    if n = .real || n = .integer true then some .hashable else none
  | _, _ => none

def isHashable? : Kind → Option Bool
  | .maker => none
  | .unhashable => some false
  | _ => some true

def ofItems (hashable : Bool) : Kind :=
  if hashable then .hashable else .unhashable

def skipTexts (octets : Bool) : List Token → Option (List Token)
  | .text o :: r => if o = octets then skipTexts octets r else none
  | r => some r

def called : Kind → List Token → Kind × List Token
  | .maker, .mark '(' :: .mark ')' :: r => (.unhashable, r)
  | k, r => (k, r)

mutual

def expression : Nat → List Token → Option (Kind × List Token)
  | 0, _ => none
  | fuel + 1, ts => do
    let (k, r) ← match ts with
      | .mark '-' :: r | .mark '+' :: r => do
        let (k, r) ← atom fuel r
        pure (← negated k, r)
      | _ => atom fuel ts
    match r with
    | .mark '-' :: r | .mark '+' :: r => do
      let (k', r) ← atom fuel r
      return (← sum k k', r)
    | _ => return (k, r)

def atom : Nat → List Token → Option (Kind × List Token)
  | 0, _ => none
  | fuel + 1, ts =>
    match ts with
    | .number n :: r => some (.number n, r)
    | .text octets :: r => (skipTexts octets r).map (.hashable, ·)
    | .constant :: r => some (.hashable, r)
    | .maker :: r => some (called .maker r)
    | .mark '(' :: r => do
      let (k, r) ← inParentheses fuel r
      return called k r
    | .mark '\x7b' :: r => inBraces fuel r
    | _ => none

def inParentheses : Nat → List Token → Option (Kind × List Token)
  | 0, _ => none
  | fuel + 1, ts =>
    match ts with
    | .mark ')' :: r => some (.hashable, r)
    | _ => do
      let (k, r) ← expression fuel ts
      match r with
      | .mark ')' :: r => return (k, r)
      | _ => do
        let (hashable, r) ← items fuel (.mark ')') r
        return (ofItems (hashable && (← isHashable? k)), r)

def items : Nat → Token → List Token → Option (Bool × List Token)
  | 0, _, _ => none
  | fuel + 1, close, ts =>
    match ts with
    | .mark ',' :: t :: r =>
      if t = close then some (true, r)
      else do
        let (k, r) ← expression fuel (t :: r)
        let hashable ← isHashable? k
        let (others, r) ← items fuel close r
        return (hashable && others, r)
    | t :: r => if t = close then some (true, r) else none
    | [] => none

def inBraces : Nat → List Token → Option (Kind × List Token)
  | 0, _ => none
  | fuel + 1, ts =>
    match ts with
    | .mark '\x7d' :: r => some (.unhashable, r)
    | _ => do
      let (k, r) ← expression fuel ts
      if (← isHashable? k) then
        match r with
        | .mark ':' :: _ => (entries fuel r).map (.unhashable, ·)
        | _ => do
          let (hashable, r) ← items fuel (.mark '\x7d') r
          if hashable then return (.unhashable, r) else none
      else none

def entries : Nat → List Token → Option (List Token)
  | 0, _ => none
  | fuel + 1, ts =>
    match ts with
    | .mark ':' :: r => do
      let (v, r) ← expression fuel r
      let _ ← isHashable? v
      match r with
      | .mark '\x7d' :: r => return r
      | .mark ',' :: .mark '\x7d' :: r => return r
      | .mark ',' :: r => do
        let (k, r) ← expression fuel r
        if (← isHashable? k) then entries fuel r else none
      | _ => none
    | _ => none

end

def isValue (ts : List Token) : Bool :=
  let fuel := 4 * ts.length + 4
  match expression fuel ts with
  | some (k, r) =>
    (isHashable? k).isSome &&
      (r.isEmpty || (items fuel .lineEnd (r ++ [.lineEnd])).any (·.2.isEmpty))
  | none => false

end Values

end Literal

open Literal in
def isLiteral (named : String → Bool) (cs : List Char) : Bool :=
  let cs := Text.unifyLines cs
  !cs.contains '\x00' && !isIndented cs.length false false cs &&
    (match tokens named (cs.length + 1) 0 cs with
      | some ts =>
        let inner := ts.dropWhile (· = .lineEnd)
        isValue (inner.reverse.dropWhile (· = .lineEnd)).reverse
      | none => false)

end EnvoySidecar.Console
