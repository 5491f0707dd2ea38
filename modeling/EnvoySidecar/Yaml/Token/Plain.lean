import EnvoySidecar.Yaml.Token

/-! Plain scalars: words without quotes, joined over gaps and line ends. -/

namespace EnvoySidecar.Yaml.Plain

def starts (v : Version) (flow : Bool) (c : Char) (r : List Char) : Bool :=
  if isIndicator c then
    (!gapFollows r && (c = '-' || (!flow && (c = '?' || c = ':')))) ||
      (v = .v12 && flow && c = ':' && !(r.head?.any isGap))
  else !isGap c && !isBreak c

def stops (v : Version) (flow : Bool) (c : Char) (r : List Char) : Bool :=
  isGap c || isLineEnd c || (c = ':' && gapFollows r) ||
    (flow && (isFlowIndicator c || (v = .v11 && c = '?')))

def word (v : Version) (flow : Bool) : List Char → Position → List Char × Cursor
  | [], place => ([], ⟨[], place⟩)
  | c :: r, place =>
    if stops v flow c r then ([], ⟨c :: r, place⟩)
    else
      let s := word v flow r (place.after c)
      (c :: s.1, s.2)

def breaks : List Char → Position → List Char × Cursor
  | [], place => ([], ⟨[], place⟩)
  | c :: r, place =>
    if place.column = 0 && markerFollows (c :: r) then ([], ⟨c :: r, place⟩)
    else if c = ' ' then breaks r (place.after c)
    else if isBreak c then
      let s := breaks r (place.after c)
      (foldBreak c :: s.1, s.2)
    else ([], ⟨c :: r, place⟩)

structure Gap where
  text : List Char
  endsLine : Bool
  cursor : Cursor

def gap (k : Cursor) : Gap :=
  let spaces := k.span (· = ' ')
  match spaces.2.rest with
  | c :: r =>
    if isBreak c then
      let s := breaks r (spaces.2.place.after c)
      if s.2.place.column = 0 && markerFollows s.2.rest then ⟨[], true, s.2⟩
      else ⟨fold (foldBreak c) s.1, true, s.2⟩
    else ⟨spaces.1, false, spaces.2⟩
  | [] => ⟨spaces.1, false, spaces.2⟩

def Gap.goesOn (g : Gap) (flow : Bool) (indent : Nat) : Bool :=
  !g.text.isEmpty && g.cursor.rest.head? != some '#' &&
    (flow || indent ≤ g.cursor.place.column)

structure Scalar where
  text : List Char
  endsLine : Bool
  cursor : Cursor

def read (v : Version) (flow : Bool) (indent : Nat) : Nat → Cursor → Scalar
  | 0, k => ⟨[], false, k⟩
  | fuel + 1, k =>
    let w := word v flow k.rest k.place
    let g := gap w.2
    if g.goesOn flow indent then
      let more := read v flow indent fuel g.cursor
      if more.text.isEmpty then ⟨w.1, g.endsLine, g.cursor⟩
      else ⟨w.1 ++ g.text ++ more.text, more.endsLine, more.cursor⟩
    else ⟨w.1, g.endsLine, g.cursor⟩

end EnvoySidecar.Yaml.Plain
