/-! Line ends. A carriage return, alone or before a line feed, ends a line like a line feed. -/

namespace EnvoySidecar.Text

def unifyLines : List Char → List Char
  | '\r' :: '\n' :: r => '\n' :: unifyLines r
  | '\r' :: r => '\n' :: unifyLines r
  | c :: r => c :: unifyLines r
  | [] => []

end EnvoySidecar.Text
