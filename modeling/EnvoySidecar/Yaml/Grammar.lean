import EnvoySidecar.Yaml.Node
import EnvoySidecar.Yaml.Token

/-! The grammar of documents: which nodes the tokens of a text stand for. An alias stands for a copy
of the node that it names; one inside the very node that it names stands for an empty node of that
kind. -/

namespace EnvoySidecar.Yaml

namespace Grammar

structure Head where
  version : Version := .v12
  handles : List (String × String) := [("!", "!"), ("!!", Tag.family)]

structure Rest where
  tokens : List Token
  anchors : List (String × Node) := []

abbrev Parse := StateT Rest (Except Fault)

def unexpected : Token → Fault
  | .fault f => f
  | _ => .malformed "a token out of place"

def refuse {α : Type} (t : Token) : Parse α :=
  throw (unexpected t)

def peek : Parse Token := do
  return (← get).tokens.headD .finish

def skip : Parse Unit :=
  modify fun r => { r with tokens := r.tokens.drop 1 }

def take? (t : Token) : Parse Bool := do
  if (← peek) = t then
    skip
    return true
  else return false

def expect (t : Token) : Parse Unit := do
  if !(← take? t) then refuse (← peek)

def comesOneOf (ts : List Token) : Parse Bool := do
  return ts.contains (← peek)

def resolve (name : String) : Parse Node := do
  match (← get).anchors.find? fun a => a.1 == name with
  | some a => return a.2
  | none => throw (.malformed "an alias of nothing")

def bind (name : String) (n : Node) : Parse Unit :=
  modify fun r => { r with anchors := (name, n) :: r.anchors }

def rebind (count : Nat) (name : String) (n : Node) : Parse Unit :=
  modify fun r =>
    let later := r.anchors.length - count - 1
    { r with anchors := r.anchors.take later ++ (name, n) :: r.anchors.drop (later + 1) }

structure Properties where
  anchor : Option String
  tag : Option String

def Head.expand (h : Head) (handle : Option String) (suffix : String) : Parse String :=
  match handle with
  | none => return suffix
  | some handle =>
    match h.handles.find? fun e => e.1 == handle with
    | some e => return e.2 ++ suffix
    | none => throw (.malformed "a tag with an unknown handle")

def tag? (h : Head) : Parse (Option String) := do
  match ← peek with
  | .tag handle suffix =>
    skip
    return some (← h.expand handle suffix)
  | _ => return none

def anchor? : Parse (Option String) := do
  match ← peek with
  | .anchor name =>
    skip
    return some name
  | _ => return none

def properties (h : Head) : Parse Properties := do
  match ← anchor? with
  | some name => return ⟨some name, ← tag? h⟩
  | none =>
    match ← tag? h with
    | some tag => return ⟨← anchor?, some tag⟩
    | none => return ⟨none, none⟩

namespace Properties

def isOpen (p : Properties) : Bool :=
  p.tag.all (· == "!")

def tagOr (p : Properties) (usual : Tag) : Tag :=
  if p.isOpen then usual else (p.tag.map Tag.ofUri).getD usual

def scalarTag (p : Properties) (v : Version) (text : String) (plain : Bool) : Tag :=
  p.tagOr (if plain || p.tag.isSome then Tag.ofPlain v text else .text)

def isSome (p : Properties) : Bool :=
  p.anchor.isSome || p.tag.isSome

end Properties

/-- What an alias inside the node that begins with a token stands for. -/
def hollow (p : Properties) : Token → Node
  | .flowSequence | .blockSequence | .entry => .list (p.tagOr .list) []
  | .flowMapping | .blockMapping => .map (p.tagOr .map) []
  | _ => .empty

mutual

/-- A node. Block collections may begin only where `block` says so, and a list without an
indentation of its own only where `indentless` does. -/
def node (h : Head) (block indentless : Bool) : Nat → Parse Node
  | 0 => throw (.malformed "a document that is nested too deep")
  | fuel + 1 => do
    match ← peek with
    | .alias name =>
      skip
      resolve name
    | _ =>
      let p ← properties h
      match p.anchor with
      | none => content h block indentless p fuel
      | some name =>
        let count := (← get).anchors.length
        bind name (hollow p (← peek))
        let made ← content h block indentless p fuel
        rebind count name made
        return made

def content (h : Head) (block indentless : Bool) (p : Properties) : Nat → Parse Node
  | 0 => throw (.malformed "a document that is nested too deep")
  | fuel + 1 => do
    match ← peek with
    | .scalar text plain =>
      skip
      return .scalar (p.scalarTag h.version text plain) text
    | .flowSequence =>
      skip
      return .list (p.tagOr .list) (← flowItems h true fuel)
    | .flowMapping =>
      skip
      return .map (p.tagOr .map) (← flowPairs h true fuel)
    | t =>
      if t = .entry && indentless then
        return .list (p.tagOr .list) (← bareEntries h fuel)
      else if t = .blockSequence && block then
        skip
        return .list (p.tagOr .list) (← entries h fuel)
      else if t = .blockMapping && block then
        skip
        return .map (p.tagOr .map) (← pairs h fuel)
      else if p.isSome then return .scalar (p.scalarTag h.version "" true) ""
      else refuse t

def entries (h : Head) : Nat → Parse (List Node)
  | 0 => throw (.malformed "a document that is nested too deep")
  | fuel + 1 => do
    if ← take? .entry then
      let item ← if ← comesOneOf [.entry, .blockEnd] then pure Node.empty else node h true false fuel
      return item :: (← entries h fuel)
    else if ← take? .blockEnd then return []
    else refuse (← peek)

def bareEntries (h : Head) : Nat → Parse (List Node)
  | 0 => throw (.malformed "a document that is nested too deep")
  | fuel + 1 => do
    if ← take? .entry then
      let item ← if ← comesOneOf [.entry, .key, .value, .blockEnd] then pure Node.empty
        else node h true false fuel
      return item :: (← bareEntries h fuel)
    else return []

def pairs (h : Head) : Nat → Parse (List (Node × Node))
  | 0 => throw (.malformed "a document that is nested too deep")
  | fuel + 1 => do
    if ← take? .key then
      let key ← if ← comesOneOf [.key, .value, .blockEnd] then pure Node.empty
        else node h true true fuel
      let value ← pairValue h fuel
      return (key, value) :: (← pairs h fuel)
    else if h.version = .v12 && (← comesOneOf [.value]) then
      let value ← pairValue h fuel
      return (.empty, value) :: (← pairs h fuel)
    else if ← take? .blockEnd then return []
    else refuse (← peek)

def pairValue (h : Head) : Nat → Parse Node
  | 0 => throw (.malformed "a document that is nested too deep")
  | fuel + 1 => do
    if ← take? .value then
      if ← comesOneOf [.key, .value, .blockEnd] then return .empty else node h true true fuel
    else return .empty

def flowItems (h : Head) (first : Bool) : Nat → Parse (List Node)
  | 0 => throw (.malformed "a document that is nested too deep")
  | fuel + 1 => do
    if ← take? .flowSequenceEnd then return []
    else
      if !first then expect .separator
      if ← take? .flowSequenceEnd then return []
      else if ← take? .key then
        let key ← if ← comesOneOf [.value, .separator, .flowSequenceEnd] then pure Node.empty
          else node h false false fuel
        let value ← flowValue h .flowSequenceEnd fuel
        return .map .map [(key, value)] :: (← flowItems h false fuel)
      else
        let item ← node h false false fuel
        return item :: (← flowItems h false fuel)

def flowPairs (h : Head) (first : Bool) : Nat → Parse (List (Node × Node))
  | 0 => throw (.malformed "a document that is nested too deep")
  | fuel + 1 => do
    if ← take? .flowMappingEnd then return []
    else
      if !first then expect .separator
      if ← take? .flowMappingEnd then return []
      else if ← take? .key then
        let key ← if ← comesOneOf [.value, .separator, .flowMappingEnd] then pure Node.empty
          else node h false false fuel
        let value ← flowValue h .flowMappingEnd fuel
        return (key, value) :: (← flowPairs h false fuel)
      else if h.version = .v12 && (← comesOneOf [.value]) then
        let value ← flowValue h .flowMappingEnd fuel
        return (.empty, value) :: (← flowPairs h false fuel)
      else
        let key ← node h false false fuel
        return (key, .empty) :: (← flowPairs h false fuel)

def flowValue (h : Head) (closing : Token) : Nat → Parse Node
  | 0 => throw (.malformed "a document that is nested too deep")
  | fuel + 1 => do
    if ← take? .value then
      if ← comesOneOf [.separator, closing] then return .empty else node h false false fuel
    else return .empty

end

def directives : Nat → Option Version → Head → Parse Head
  | 0, _, h => return h
  | fuel + 1, version, h => do
    match ← peek with
    | .directive (.version major minor) =>
      if version.isSome then throw (.malformed "a second version")
      if major != 1 then throw (.malformed "a version of another language")
      let v ← match minor with
        | 1 => pure Version.v11
        | 2 => pure Version.v12
        | _ => throw (.unknownVersion major minor)
      skip
      directives fuel (some v) { h with version := v }
    | .directive (.tag handle uri) =>
      let own := h.handles.take (h.handles.length - ({} : Head).handles.length)
      if own.any fun e => e.1 == handle then throw (.malformed "a second meaning of a handle")
      skip
      directives fuel version { h with handles := (handle, uri) :: h.handles }
    | .directive (.other _) =>
      skip
      directives fuel version h
    | _ => return h

def isOutside : Token → Bool
  | .directive _ | .documentStart | .documentEnd | .finish => true
  | _ => false

def explicitDocument (fuel : Nat) : Parse (Head × Node) := do
  let h ← directives fuel none {}
  expect .documentStart
  if isOutside (← peek) then return (h, .empty)
  else return (h, ← node h true false fuel)

def dropEnds : Nat → Parse Unit
  | 0 => return
  | fuel + 1 => do
    if ← take? .documentEnd then dropEnds fuel

def document (fuel : Nat) : Parse (Head × Node) := do
  match ← peek with
  | .finish => return ({}, .empty)
  | t =>
    let explicit := match t with
      | .directive _ | .documentStart => true
      | _ => false
    let (h, n) ← if explicit then explicitDocument fuel
      else pure ({}, ← node {} true false fuel)
    if h.version = .v11 then dropEnds fuel else discard (take? .documentEnd)
    expect .finish
    return (h, n)

end Grammar

def Node.ofTokens (ts : List Token) : Except Fault (Version × Node) := do
  let ((head, node), _) ← (Grammar.document (3 * ts.length + 3)).run ⟨ts, []⟩
  return (head.version, node)

end EnvoySidecar.Yaml
