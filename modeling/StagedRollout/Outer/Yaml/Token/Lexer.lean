/-
The tokens of a text. Structure is marked by indentation outside brackets, and a scalar turns out to
be a key only when the colon after it is met, within its line; until then it is held back, and so
are the tokens after it.
-/
import StagedRollout.Outer.Yaml.Token.Property
import StagedRollout.Outer.Yaml.Token.Scalar

namespace StagedRollout.Yaml

/-- A place where a key may have started. -/
structure KeyPlace where
  /-- The number of the token that would be the key. -/
  number : Nat
  /-- Nothing but a key may stand there. -/
  isRequired : Bool
  offset : Nat
  line : Nat
  column : Nat

structure Lexer where
  source : Source
  /-- Tokens that are found but not yet given out. -/
  pending : List Token
  /-- The number of tokens given out. -/
  taken : Nat
  indent : Int
  /-- The indentations of the structures around. -/
  indents : List Int
  /-- The number of brackets that are open; closing one too many makes it negative. -/
  depth : Int
  keyAllowed : Bool
  /-- Places where a key may have started, by depth. -/
  keys : List (Int × KeyPlace)
  isDone : Bool

/-- A change of a lexer. -/
abbrev Lex (α : Type) := StateT Lexer (Except Fault) α

namespace Lexer

def ofText (s : String) : Lexer := ⟨Source.ofText s, [], 0, -1, [], 0, true, [], false⟩

def inFlow (l : Lexer) : Bool := l.depth ≠ 0

def column (l : Lexer) : Int := l.source.column

end Lexer

namespace Lex

/-- A reading of the source. -/
def scan {α : Type} (x : Scan α) : Lex α := do
  let l ← get
  let (a, source) ← liftM (x.run l.source)
  set { l with source := source }
  return a

def fail {α : Type} : Lex α := throw (.yaml .scanner)

def emit (t : Token) : Lex Unit := modify fun l => { l with pending := l.pending ++ [t] }

/-- Puts a token before the one of the given number. -/
def insertAt (number : Nat) (t : Token) : Lex Unit :=
  modify fun l =>
    let place := number - l.taken
    { l with pending := l.pending.take place ++ t :: l.pending.drop place }

def allowKey (allowed : Bool) : Lex Unit := modify fun l => { l with keyAllowed := allowed }

/-! ## Keys -/

/-- Whether a key that started at a place can no longer be one: it must stay in its line and may
take at most 1024 characters. -/
def isStale (source : Source) (place : KeyPlace) : Bool :=
  place.line ≠ source.line || 1024 < source.offset - place.offset

/-- Forgets the places that can no longer be keys. -/
def dropStale : Lex Unit := do
  let l ← get
  if l.keys.any fun k => isStale l.source k.2 && k.2.isRequired then fail
  set { l with keys := l.keys.filter fun k => !isStale l.source k.2 }

/-- Forgets the place at this depth; a key that is required there is then missing. -/
def dropKey : Lex Unit := do
  let l ← get
  match l.keys.lookup l.depth with
  | none => return ()
  | some place =>
    if place.isRequired then fail
    set { l with keys := l.keys.filter fun k => k.1 ≠ l.depth }

/-- Notes that a key may start here. -/
def noteKey : Lex Unit := do
  if (← get).keyAllowed then
    dropKey
    modify fun l =>
      let place : KeyPlace :=
        ⟨l.taken + l.pending.length, !l.inFlow && l.indent = l.column, l.source.offset,
          l.source.line, l.source.column⟩
      { l with keys := l.keys ++ [(l.depth, place)] }

/-! ## Indentation -/

/-- Closes the structures that are indented further than a column. -/
def closeBlocks (column : Int) : List Int → Lex Unit
  | [] => return ()
  | outer :: rest => do
    let l ← get
    if !l.inFlow && column < l.indent then
      set { l with indent := outer, indents := rest, pending := l.pending ++ [Token.blockEnd] }
      closeBlocks column rest

def unwind (column : Int) : Lex Unit := do
  closeBlocks column (← get).indents

/-- Opens a structure at a column that is indented further; says whether it is. -/
def openBlock (column : Int) : Lex Bool := do
  let l ← get
  if l.indent < column then
    set { l with indent := column, indents := l.indent :: l.indents }
    return true
  else return false

/-! ## Tokens -/

/-- The end of the text, which closes every structure. -/
def endOfStream : Lex Unit := do
  unwind (-1)
  dropKey
  emit .streamEnd
  modify fun l => { l with keyAllowed := false, keys := [], isDone := true }

def directiveLine : Lex Unit := do
  unwind (-1)
  dropKey
  allowKey false
  emit (.directive (← scan directive))

/-- The start or the end of a document. -/
def documentMark (t : Token) : Lex Unit := do
  unwind (-1)
  dropKey
  allowKey false
  scan (Scan.skip 3)
  emit t

def openBracket (t : Token) : Lex Unit := do
  noteKey
  modify fun l => { l with depth := l.depth + 1 }
  allowKey true
  scan (Scan.skip 1)
  emit t

def closeBracket (t : Token) : Lex Unit := do
  dropKey
  modify fun l => { l with depth := l.depth - 1 }
  allowKey false
  scan (Scan.skip 1)
  emit t

def flowEntry : Lex Unit := do
  allowKey true
  dropKey
  scan (Scan.skip 1)
  emit .flowEntry

/-- Outside brackets, an entry of a block structure may only stand where a key may; the first one
opens the structure. -/
def openEntries (t : Token) : Lex Unit := do
  let l ← get
  unless l.inFlow do
    unless l.keyAllowed do fail
    if ← openBlock l.column then emit t

def blockEntry : Lex Unit := do
  openEntries .blockSequenceStart
  allowKey true
  dropKey
  scan (Scan.skip 1)
  emit .blockEntry

/-- The mark of a key that is not known by its colon. -/
def explicitKey : Lex Unit := do
  openEntries .blockMappingStart
  allowKey !(← get).inFlow
  dropKey
  scan (Scan.skip 1)
  emit .key

/-- The colon after a key that was held back: the key is marked where it started. -/
def markKey (place : KeyPlace) : Lex Unit := do
  modify fun l => { l with keys := l.keys.filter fun k => k.1 ≠ l.depth }
  insertAt place.number .key
  unless (← get).inFlow do
    if ← openBlock place.column then insertAt place.number .blockMappingStart
  allowKey false

/-- The colon of a value without such a key. -/
def bareValue : Lex Unit := do
  openEntries .blockMappingStart
  allowKey !(← get).inFlow
  dropKey

def value : Lex Unit := do
  let l ← get
  match l.keys.lookup l.depth with
  | some place => markKey place
  | none => bareValue
  scan (Scan.skip 1)
  emit .value

/-- A token that may be a key or its first property. -/
def keyLike (x : Scan Token) : Lex Unit := do
  noteKey
  allowKey false
  emit (← scan x)

def plain : Lex Unit := do
  noteKey
  let l ← get
  let (text, crossed) ← scan (plainScalar l.inFlow (l.indent + 1))
  allowKey crossed
  emit (.scalar text true)

def block (folded : Bool) : Lex Unit := do
  allowKey true
  dropKey
  emit (.scalar (← scan (blockScalar folded (← get).indent)) false)

/-! ## The next token -/

/-- Whether a plain scalar may start with a character before another one. -/
def startsPlain (inFlow : Bool) (c next : Char) : Bool :=
  !(isBlankOrEnd c || "-?:,[]\x7b\x7d#&*!|>'\"%@\x60".toList.contains c) ||
    (!isBlankOrEnd next && (c = '-' || (!inFlow && (c = '?' || c = ':'))))

/-- The token that starts with a character. -/
def tokenOf (l : Lexer) (c : Char) : Lex Unit :=
  let next := l.source.ahead 1
  let gapNext := l.inFlow || isBlankOrEnd next
  let atStart := l.source.column = 0
  if c = endMark then endOfStream
  else if c = '%' && atStart then directiveLine
  else if atStart && l.source.isAtMark '-' then documentMark .documentStart
  else if atStart && l.source.isAtMark '.' then documentMark .documentEnd
  else if c = '[' then openBracket .flowSequenceStart
  else if c = '\x7b' then openBracket .flowMappingStart
  else if c = ']' then closeBracket .flowSequenceEnd
  else if c = '\x7d' then closeBracket .flowMappingEnd
  else if c = ',' then flowEntry
  else if c = '-' && isBlankOrEnd next then blockEntry
  else if c = '?' && gapNext then explicitKey
  else if c = ':' && gapNext then value
  else if c = '*' then keyLike (Token.alias <$> anchorName)
  else if c = '&' then keyLike (Token.anchor <$> anchorName)
  else if c = '!' then keyLike tagProperty
  else if c = '|' && !l.inFlow then block false
  else if c = '>' && !l.inFlow then block true
  else if c = '\'' || c = '"' then keyLike do return .scalar (← quotedScalar) false
  else if startsPlain l.inFlow c next then plain
  else fail

/-- Finds one more token, and those that its place implies. -/
def fetch : Lex Unit := do
  let crossed ← scan Scan.toNextToken
  if crossed && !(← get).inFlow then allowKey true
  dropStale
  unwind (← get).column
  let l ← get
  tokenOf l (l.source.ahead 0)

/-- Whether the next token cannot be given out yet: none is found, or it may turn out to be a key. -/
def needsMore : Lex Bool := do
  let l ← get
  if l.isDone then return false
  else if l.pending.isEmpty then return true
  else
    dropStale
    let l ← get
    return l.keys.any fun k => k.2.number = l.taken

end Lex

/-! ## All tokens -/

/-- The tokens of a text up to the first fault. -/
structure TokenStream where
  tokens : List Token
  /-- What comes instead of the token after the last one. -/
  fault : Fault

namespace TokenStream

/-- One token before a stream. -/
def cons (t : Token) (s : TokenStream) : TokenStream := ⟨t :: s.tokens, s.fault⟩

/-- The tokens that a lexer gives out in so many steps. -/
def ofLexer : Nat → Lexer → TokenStream
  | 0, _ => ⟨[], .yaml .scanner⟩
  | fuel + 1, l =>
    match Lex.needsMore.run l with
    | .error e => ⟨[], e⟩
    | .ok (true, l) =>
      match Lex.fetch.run l with
      | .error e => ⟨[], e⟩
      | .ok (_, l) => ofLexer fuel l
    | .ok (false, l) =>
      match l.pending with
      | [] => ⟨[], .yaml .scanner⟩
      | t :: rest => cons t (ofLexer fuel { l with pending := rest, taken := l.taken + 1 })

/-- The tokens of a text. A character gives at most three tokens and opens at most one structure
that is closed again. -/
def ofText (s : String) : TokenStream := ofLexer (8 * (s.length + 2)) (Lexer.ofText s)

end TokenStream

end StagedRollout.Yaml
