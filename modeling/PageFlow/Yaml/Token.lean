/-!
# Tokens of YAML

The tokens of a stream. Block collections are marked by tokens of their own
where the indentation opens and closes them, and a key before a colon has a
token in front of it.
-/

namespace PageFlow.Yaml

inductive Token where
  | version (major : Nat)
  | handle (name uri : String)
  | directive
  | documentStart
  | documentEnd
  | streamEnd
  | flowSequenceStart
  | flowSequenceEnd
  | flowMappingStart
  | flowMappingEnd
  | flowEntry
  | blockSequenceStart
  | blockMappingStart
  | blockEnd
  | blockEntry
  | key
  | value
  | alias (name : String)
  | anchor (name : String)
  | tag (handle : Option String) (suffix : String)
  | scalar (text : String) (plain : Bool)
  deriving DecidableEq, Repr

end PageFlow.Yaml
