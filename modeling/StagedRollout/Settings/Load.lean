/-
Settings from files: a base file, and perhaps a file of the environment that is laid over it. The
settings are the members of one section of the document. How the text of a file is read and how
settings are checked is left to a format.
-/
import StagedRollout.Settings.Basic

namespace StagedRollout.Settings

/-! ## Formats -/

/-- What a check says of settings that do not fit. -/
structure Misfit where
  text : Text
  complaints : List Complaint

/-- The data of configuration files with their keys: how a text is read, what the data hold, and how
the settings among them are checked. A mapping may hold itself, so nothing is said of how deep data
go; `room` is how deep the merge of two mappings may go. -/
structure Format (α κ : Type) where
  read : String → Except Fault α
  isTruthy : α → Bool
  isMapping : α → Bool
  /-- The mapping without entries. -/
  empty : α
  entries : α → List (κ × α)
  find? : α → κ → Option α
  /-- A copy of a mapping with an entry set. -/
  put : α → κ → α → α
  /-- The key of a name. -/
  key : String → κ
  check : Placement → α → Except Misfit Settings
  room : Nat

variable {α κ : Type} (format : Format α κ)

/-- The settings of a placement, as their check finds them. -/
def build (placement : Placement) (data : α) : Except Fault Settings :=
  (format.check placement data).mapError fun m =>
    .service .config ("Config validation failed: " ++ m.text) (some (.misfit m.complaints))

namespace Format

/-! ## Merging -/

/-- Lays an entry over a mapping. Where both hold mappings under the key, `lay` makes one of the
two. -/
def layEntry (lay : α → α → Except Fault α) (below : α) (entry : κ × α) : Except Fault α :=
  match format.find? below entry.1 with
  | some held =>
    if format.isMapping held && format.isMapping entry.2 then do
      return format.put below entry.1 (← lay held entry.2)
    else .ok (format.put below entry.1 entry.2)
  | none => .ok (format.put below entry.1 entry.2)

/-- Lays a mapping over another one, with room for so many mappings inside one another. -/
def merge : Nat → α → α → Except Fault α
  | 0, _, _ => .error .tooDeep
  | room + 1, below, above => (format.entries above).foldlM (format.layEntry (merge room)) below

end Format

/-! ## Files -/

/-- What is found at a path. -/
inductive FileContent where
  | missing
  | directory
  | bytes (content : List UInt8)

/-- A path and what is found there. -/
structure File where
  path : Text
  content : FileContent

/-- Line breaks of every kind as line feeds. -/
def plainBreaks : List Char → List Char
  | [] => []
  | '\r' :: '\n' :: rest => '\n' :: plainBreaks rest
  | '\r' :: rest => '\n' :: plainBreaks rest
  | c :: rest => c :: plainBreaks rest

/-- The text of bytes in the usual encoding. -/
def decode (content : List UInt8) : Except Fault String :=
  match String.fromUTF8? ⟨content.toArray⟩ with
  | some s => .ok (String.ofList (plainBreaks s.toList))
  | none => .error .undecodable

/-- A file that cannot be read. -/
def unreadable (path : Text) (cause : Fault) : Fault :=
  .service .config ("Failed to read config file: " ++ path) (some cause)

def fileText (file : File) : Except Fault String :=
  match file.content with
  | .missing => .error (unreadable file.path .fileMissing)
  | .directory => .error (unreadable file.path .fileIsDirectory)
  | .bytes content => decode content

/-- A fault of a text as a fault of the settings. Only faults of the format are one. -/
def wrapFormat (path : Text) : Fault → Fault
  | .yaml stage => .service .config ("Failed to parse YAML: " ++ path) (some (.yaml stage))
  | f => f

/-- The mapping that a file holds; one that says nothing is empty. -/
def readFile (file : File) : Except Fault α := do
  let data ← (format.read (← fileText file)).mapError (wrapFormat file.path)
  let data := if format.isTruthy data then data else format.empty
  if format.isMapping data then return data
  else throw (.service .config ("Config root must be a mapping: " ++ file.path) none)

/-! ## Sections -/

/-- The name of the section that holds the settings. -/
def sectionName : String := "featureflag"

/-- The mapping of a base file with that of a file of the environment laid over it. A file of the
environment that is missing counts as none. -/
def readFiles (base : File) (environment : Option File) : Except Fault α := do
  let data ← readFile format base
  match environment with
  | none => return data
  | some file =>
    match file.content with
    | .missing => return data
    | _ => format.merge format.room data (← readFile format file)

/-- The settings of a placement from files. -/
def load (placement : Placement) (base : File) (environment : Option File) :
    Except Fault Settings := do
  let data ← readFiles format base environment
  let held := (format.find? data (format.key sectionName)).getD format.empty
  if format.isMapping held then build format placement held
  else
    throw (.service .config
      ("'" ++ sectionName ++ "' section must be a mapping: " ++ base.path) none)

end StagedRollout.Settings
