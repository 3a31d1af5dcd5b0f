import LineCommand.Yaml.Source

/-! The tokens that a text is cut into. Indentation shows as starts and ends of block
collections. -/
namespace LineCommand.Yaml

inductive Directive
  | version (major : Nat)
  /-- An abbreviation for the start of tags. -/
  | handle (name lead : String)
  | reserved
  deriving DecidableEq, Repr

inductive Token
  | directive (d : Directive)
  | documentStart
  | documentEnd
  | blockSequenceStart
  | blockMappingStart
  | blockEnd
  | flowSequenceStart
  | flowSequenceEnd
  | flowMappingStart
  | flowMappingEnd
  | blockEntry
  | flowEntry
  | key
  | value
  | alias (name : String)
  | anchor (name : String)
  /-- A tag: the abbreviation that it starts with, if any, and the rest. -/
  | tag (handle : Option String) (suffix : String)
  | scalar (text : String) (plain : Bool)
  deriving DecidableEq, Repr

end LineCommand.Yaml
