/-
The tokens of a configuration text: the marks of its structure and the scalars between them.
-/

namespace StagedRollout.Yaml

/-- A line that says how a document is to be read. -/
inductive Directive where
  | version (major minor : Nat)
  /-- A handle of tags and the text that it stands for. -/
  | tag (handle expansion : String)
  | unknown (name : String)

inductive Token where
  | directive (d : Directive)
  | documentStart
  | documentEnd
  | streamEnd
  | blockSequenceStart
  | blockMappingStart
  | blockEnd
  | flowSequenceStart
  | flowSequenceEnd
  | flowMappingStart
  | flowMappingEnd
  | blockEntry
  | flowEntry
  | key
  | value
  | alias (name : String)
  | anchor (name : String)
  /-- A tag with the handle of its first part, if it has one. -/
  | tag (handle : Option String) (suffix : String)
  /-- A scalar; a plain one stands without quotes and without an indicator. -/
  | scalar (text : String) (isPlain : Bool)

end StagedRollout.Yaml
