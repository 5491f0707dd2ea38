import EnvoySidecar.Log.Level

/-! The root of the log: a threshold, and the handlers that its lines go to. Setting it up takes all
handlers away, attaches one that writes to the error stream, and sets the threshold in the end, so
that a text that stands for no threshold leaves the old one, and the new handler behind. -/

namespace EnvoySidecar.Log

inductive Handler where
  | errorStream
  | outputStream
  | file (path : String)
  | other (name : String)
deriving DecidableEq, Repr

structure Root where
  threshold : Int
  handlers : List Handler
deriving DecidableEq, Repr

namespace Root

def remove (r : Root) (h : Handler) : Root :=
  { r with handlers := r.handlers.erase h }

def attach (r : Root) (h : Handler) : Root :=
  if h ∈ r.handlers then r else { r with handlers := r.handlers ++ [h] }

def clear (r : Root) : Root :=
  r.handlers.foldl remove r

structure Setup where
  root : Root
  result : Except Level.Fault Unit

/-- Nothing is set up as long as there is another handler. -/
def setup (r : Root) (level : String) : Setup :=
  let cleared := r.clear
  if cleared.handlers ≠ [] then ⟨cleared, .ok ()⟩
  else
    let attached := cleared.attach .errorStream
    match Level.ofText level with
    | .ok l => ⟨{ attached with threshold := l.number }, .ok ()⟩
    | .error fault => ⟨attached, .error fault⟩

end Root

end EnvoySidecar.Log
