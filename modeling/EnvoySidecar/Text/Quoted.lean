import EnvoySidecar.Text.Digits
import EnvoySidecar.Text.Printable

/-! Quoted texts, as messages show a value: single quotes unless the text holds one and no
double quote, with escapes for the quote, the backslash and everything unprintable. -/

namespace EnvoySidecar.Text.Quoted

def quoteFor (cs : List Char) : Char :=
  if cs.contains '\'' && !cs.contains '"' then '"' else '\''

def escapeCode (c : Char) : List Char :=
  let n := c.toNat
  if n < 0x100 then '\\' :: 'x' :: hexDigits 2 n
  else if n < 0x10000 then '\\' :: 'u' :: hexDigits 4 n
  else '\\' :: 'U' :: hexDigits 8 n

def writeChar (quote c : Char) : List Char :=
  if c = quote || c = '\\' then ['\\', c]
  else if c = '\n' then ['\\', 'n']
  else if c = '\r' then ['\\', 'r']
  else if c = '\t' then ['\\', 't']
  else if isPrintable c then [c]
  else escapeCode c

def write (cs : List Char) : List Char :=
  let quote := quoteFor cs
  quote :: (cs.flatMap (writeChar quote) ++ [quote])

end EnvoySidecar.Text.Quoted

namespace EnvoySidecar.Text

def quoted (s : String) : String :=
  String.ofList (Quoted.write s.toList)

end EnvoySidecar.Text
