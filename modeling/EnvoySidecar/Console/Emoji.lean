import EnvoySidecar.Console.Emoji.Table
import EnvoySidecar.Text.Case
import EnvoySidecar.Text.Words

/-! Emoji codes: a short name between colons stands for its emoji, with a selector of the text or
the emoji form if the name says so. Codes of no emoji stay, both colons with them. -/

namespace EnvoySidecar.Console.Emoji

open Text

def pairUp : List (List Char) → List (List Char × List Char)
  | name :: emoji :: rest => (name, emoji) :: pairUp rest
  | _ => []

def entries : List (List Char × List Char) :=
  pairUp (words table.toList)

def find? (name : List Char) : Option (List Char) :=
  (entries.find? fun e => e.1 == name).map (·.2)

def variants : List (List Char × Char) :=
  [("-emoji".toList, '\ufe0f'), ("-text".toList, '\ufe0e')]

def ofCode? (code : List Char) : Option (List Char) :=
  match variants.find? fun v => v.1.isSuffixOf code with
  | some (ending, selector) =>
    (find? (lower (code.take (code.length - ending.length)))).map (· ++ [selector])
  | none => find? (lower code)

def replaceFrom : Nat → List Char → List Char
  | 0, cs => cs
  | _ + 1, [] => []
  | fuel + 1, c :: r =>
    if c = ':' then
      let code := r.takeWhile fun d => d != ':' && !isBlank d
      match r.drop code.length with
      | ':' :: rest => (ofCode? code).getD (':' :: code ++ [':']) ++ replaceFrom fuel rest
      | _ => c :: replaceFrom fuel r
    else c :: replaceFrom fuel r

def replace (cs : List Char) : List Char :=
  replaceFrom cs.length cs

end EnvoySidecar.Console.Emoji
