/-
The node of a stream of tokens. A stream holds at most one document. Tokens are looked at one by
one, so that a fault of the text behind a fault of the structure does not show.
-/
import StagedRollout.Outer.Yaml.Node
import StagedRollout.Outer.Yaml.Token.Lexer

namespace StagedRollout.Yaml

/-- What is left of a stream, the handles of tags, and the anchors that are set. -/
structure Reading where
  stream : TokenStream
  handles : List (String × String)
  anchors : List String

abbrev Parse (α : Type) := StateT Reading (Except Fault) α

namespace Parse

/-- The structure is not as it must be. -/
def fail {α : Type} : Parse α := throw (.yaml .parser)

/-- The nodes do not make up one document. -/
def refuse {α : Type} : Parse α := throw (.yaml .composer)

/-- The token ahead. -/
def peek : Parse Token := do
  match (← get).stream.tokens with
  | t :: _ => return t
  | [] => throw (← get).stream.fault

/-- Passes the token ahead. -/
def next : Parse Unit :=
  modify fun r => { r with stream := { r.stream with tokens := r.stream.tokens.drop 1 } }

/-! ## Tokens that end something -/

def endsEntry : Token → Bool
  | .blockEntry => true
  | .blockEnd => true
  | _ => false

def endsRow : Token → Bool
  | .key => true
  | .value => true
  | .blockEnd => true
  | _ => false

def endsBareEntry (t : Token) : Bool := endsEntry t || endsRow t

/-- Ends a part of a row between brackets that close with a given token. -/
def endsFlowPart (isClose : Token → Bool) : Token → Bool
  | .value => true
  | .flowEntry => true
  | t => isClose t

def closesSequence : Token → Bool
  | .flowSequenceEnd => true
  | _ => false

def closesMapping : Token → Bool
  | .flowMappingEnd => true
  | _ => false

def endsDocument : Token → Bool
  | .directive _ => true
  | .documentStart => true
  | .documentEnd => true
  | .streamEnd => true
  | _ => false

/-! ## Properties -/

/-- The name of a tag whose handle must be known. -/
def tagName (handle : Option String) (suffix : String) : Parse String := do
  match handle with
  | none => return suffix
  | some handle =>
    match (← get).handles.lookup handle with
    | some expansion => return expansion ++ suffix
    | none => fail

/-- The tag ahead, if there is one, with its handle. -/
def tagToken : Parse (Option (Option String × String)) := do
  match ← peek with
  | .tag handle suffix =>
    next
    return some (handle, suffix)
  | _ => return none

def anchorToken : Parse (Option String) := do
  match ← peek with
  | .anchor name =>
    next
    return some name
  | _ => return none

/-- The anchor and the name of the tag of a node, in either order. -/
def properties : Parse (Option String × Option String) := do
  let first ← anchorToken
  let tag ← tagToken
  let anchor ← match first, tag with
    | none, some _ => anchorToken
    | first, _ => pure first
  let name ← match tag with
    | some (handle, suffix) => some <$> tagName handle suffix
    | none => pure none
  return (anchor, name)

/-- Sets an anchor, which must be new. -/
def setAnchor (anchor : Option String) : Parse Unit := do
  match anchor with
  | none => return ()
  | some name =>
    if (← get).anchors.contains name then refuse
    modify fun r => { r with anchors := name :: r.anchors }

/-- The tag of a scalar: the one that is written out, else one by its form if it is plain. A lone
exclamation mark asks for the form of any scalar. -/
def scalarTag (name : Option String) (isPlain : Bool) (text : String) : Tag :=
  match name with
  | none => if isPlain then Tag.ofPlain text else .text
  | some "!" => Tag.ofPlain text
  | some name => Tag.ofName name

/-- The tag of a collection. -/
def collectionTag (name : Option String) (tag : Tag) : Tag :=
  match name with
  | none => tag
  | some "!" => tag
  | some name => Tag.ofName name

/-- An alias, whose anchor must be set. -/
def aliasNode (name : String) : Parse Node := do
  next
  if (← get).anchors.contains name then return .alias name else refuse

/-- A scalar with its properties. -/
def scalarNode (anchor name : Option String) (text : String) (isPlain : Bool) : Parse Node := do
  setAnchor anchor
  return .scalar anchor (scalarTag name isPlain text) text

/-- The token that must come next. -/
def expect (p : Token → Bool) : Parse Unit := do
  if p (← peek) then next else fail

def isBlockEnd : Token → Bool
  | .blockEnd => true
  | _ => false

/-- What parts a node can have at its place. -/
structure Place where
  /-- Whether structures by indentation may start. -/
  inBlock : Bool
  /-- Whether a sequence may start at the indentation of the mapping around it. -/
  bareSequence : Bool

def blockPlace : Place := ⟨true, false⟩

def rowPlace : Place := ⟨true, true⟩

def flowPlace : Place := ⟨false, false⟩

/-- A node unless a token ahead says that it is left out. -/
def nodeUnless (ends : Token → Bool) (node : Parse Node) : Parse Node := do
  if ends (← peek) then return Node.empty else node

/-- A value after its mark, or one that is left out with its mark. -/
def valueOf (ends : Token → Bool) (node : Parse Node) : Parse Node := do
  match ← peek with
  | .value =>
    next
    nodeUnless ends node
  | _ => return Node.empty

/-! ## Nodes -/

mutual

/-- A node at a place. -/
def node : Nat → Place → Parse Node
  | 0, _ => fail
  | fuel + 1, place => do
    match ← peek with
    | .alias name => aliasNode name
    | _ =>
      let (anchor, name) ← properties
      match ← peek with
      | .scalar text isPlain =>
        next
        scalarNode anchor name text isPlain
      | .blockEntry =>
        if place.bareSequence then
          setAnchor anchor
          return .sequence anchor (collectionTag name .sequence) (← bareEntries fuel)
        else bareNode anchor name
      | .flowSequenceStart =>
        setAnchor anchor
        next
        return .sequence anchor (collectionTag name .sequence) (← flowEntries fuel true)
      | .flowMappingStart =>
        setAnchor anchor
        next
        return .mapping anchor (collectionTag name .mapping) (← flowRows fuel true)
      | .blockSequenceStart =>
        if place.inBlock then
          setAnchor anchor
          next
          return .sequence anchor (collectionTag name .sequence) (← blockEntries fuel)
        else bareNode anchor name
      | .blockMappingStart =>
        if place.inBlock then
          setAnchor anchor
          next
          return .mapping anchor (collectionTag name .mapping) (← blockRows fuel)
        else bareNode anchor name
      | _ => bareNode anchor name

/-- A node that has properties and nothing else. -/
def bareNode (anchor name : Option String) : Parse Node :=
  if anchor.isSome || name.isSome then scalarNode anchor name "" name.isNone else fail

/-- The entries of a sequence by indentation. -/
def blockEntries : Nat → Parse (List Node)
  | 0 => fail
  | fuel + 1 => do
    match ← peek with
    | .blockEntry =>
      next
      let item ← nodeUnless endsEntry (node fuel blockPlace)
      return item :: (← blockEntries fuel)
    | _ =>
      expect isBlockEnd
      return []

/-- The entries of a sequence at the indentation of the mapping around it. -/
def bareEntries : Nat → Parse (List Node)
  | 0 => fail
  | fuel + 1 => do
    match ← peek with
    | .blockEntry =>
      next
      let item ← nodeUnless endsBareEntry (node fuel blockPlace)
      return item :: (← bareEntries fuel)
    | _ => return []

/-- The rows of a mapping by indentation. -/
def blockRows : Nat → Parse (List (Node × Node))
  | 0 => fail
  | fuel + 1 => do
    match ← peek with
    | .key =>
      next
      let key ← nodeUnless endsRow (node fuel rowPlace)
      let value ← valueOf endsRow (node fuel rowPlace)
      return (key, value) :: (← blockRows fuel)
    | _ =>
      expect isBlockEnd
      return []

/-- The entries of a sequence in brackets; a row among them is a mapping of its own. -/
def flowEntries : Nat → Bool → Parse (List Node)
  | 0, _ => fail
  | fuel + 1, isFirst => do
    if closesSequence (← peek) then
      next
      return []
    else
      unless isFirst do
        match ← peek with
        | .flowEntry => next
        | _ => fail
      match ← peek with
      | .flowSequenceEnd =>
        next
        return []
      | .key =>
        next
        let key ← nodeUnless (endsFlowPart closesSequence) (node fuel flowPlace)
        let value ← valueOf (endsFlowPart closesSequence) (node fuel flowPlace)
        return .mapping none .mapping [(key, value)] :: (← flowEntries fuel false)
      | _ =>
        let item ← node fuel flowPlace
        return item :: (← flowEntries fuel false)

/-- The rows of a mapping in brackets; a node without a mark is a key without a value. -/
def flowRows : Nat → Bool → Parse (List (Node × Node))
  | 0, _ => fail
  | fuel + 1, isFirst => do
    if closesMapping (← peek) then
      next
      return []
    else
      unless isFirst do
        match ← peek with
        | .flowEntry => next
        | _ => fail
      match ← peek with
      | .flowMappingEnd =>
        next
        return []
      | .key =>
        next
        let key ← nodeUnless (endsFlowPart closesMapping) (node fuel flowPlace)
        let value ← valueOf (endsFlowPart closesMapping) (node fuel flowPlace)
        return (key, value) :: (← flowRows fuel false)
      | _ =>
        let key ← node fuel flowPlace
        return (key, Node.empty) :: (← flowRows fuel false)

end

/-! ## Documents -/

/-- The handles that every document has. -/
def standardHandles : List (String × String) := [("!", "!"), ("!!", Tag.standard)]

/-- The directives before a document: at most one version, whose first number is 1, and handles
that are set once. -/
def directives : Nat → Bool → List (String × String) → Parse (List (String × String))
  | 0, _, handles => return handles
  | fuel + 1, hasVersion, handles => do
    match ← peek with
    | .directive (.version major _) =>
      next
      if hasVersion || major ≠ 1 then fail
      directives fuel true handles
    | .directive (.tag handle expansion) =>
      next
      if (handles.lookup handle).isSome then fail
      directives fuel hasVersion ((handle, expansion) :: handles)
    | .directive (.unknown _) =>
      next
      directives fuel hasVersion handles
    | _ => return handles

/-- Passes marks of ended documents. -/
def skipEnds : Nat → Parse Unit
  | 0 => return ()
  | fuel + 1 => do
    match ← peek with
    | .documentEnd =>
      next
      skipEnds fuel
    | _ => return ()

/-- The start of a document that is marked, or the end of the stream; says whether there is one. -/
def markedStart (fuel : Nat) : Parse Bool := do
  skipEnds fuel
  match ← peek with
  | .streamEnd => return false
  | _ =>
    let handles ← directives fuel false []
    match ← peek with
    | .documentStart =>
      next
      modify fun r => { r with handles := handles ++ standardHandles }
      return true
    | _ => fail

/-- The root node of the first document, if the stream holds one. -/
def root (fuel : Nat) : Parse (Option Node) := do
  match ← peek with
  | .directive _ | .documentStart | .streamEnd =>
    if ← markedStart fuel then some <$> nodeUnless endsDocument (node fuel blockPlace)
    else return none
  | _ => some <$> node fuel blockPlace

/-- The end of the document, after which no other one may start. -/
def ending (fuel : Nat) : Parse Unit := do
  match ← peek with
  | .documentEnd => next
  | _ => pure ()
  if ← markedStart fuel then refuse

/-- The root node of the only document of the stream. -/
def document (fuel : Nat) : Parse (Option Node) := do
  match ← root fuel with
  | none => return none
  | some node =>
    ending fuel
    return some node

end Parse

/-- The root node of a text, none if the text holds no document. Every step passes a token or is
followed by one that does. -/
def Node.ofText? (s : String) : Except Fault (Option Node) :=
  let stream := TokenStream.ofText s
  (Parse.document (4 * (stream.tokens.length + 2))).run' ⟨stream, Parse.standardHandles, []⟩

end StagedRollout.Yaml
