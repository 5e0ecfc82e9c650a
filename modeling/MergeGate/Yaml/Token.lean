import MergeGate.Yaml.Failure

/-!
# Tokens of a YAML text

The indentation of block collections has become start and end tokens, and a key that is
recognised only by the colon after it has its mark in front of it.
-/

namespace MergeGate.Yaml

/-- An instruction in front of a document. -/
inductive Directive where
  | version (major minor : Nat)
  | tag (handle : String) (start : String)
  | unknown
deriving Repr, DecidableEq, Inhabited

/-- A token. -/
inductive Token where
  | streamEnd
  | directive (d : Directive)
  | documentStart
  | documentEnd
  | blockSequenceStart
  | blockMappingStart
  | blockEnd
  | flowSequenceStart
  | flowSequenceEnd
  | flowMappingStart
  | flowMappingEnd
  | blockEntry
  | flowEntry
  | key
  | value
  | reference (name : String)
  | anchor (name : String)
  | tag (handle : Option String) (suffix : String)
  | scalar (text : String) (plain : Bool)
deriving Repr, DecidableEq, Inhabited

/-- The tokens of a text. If the text is faulty they end before the fault, with what it is. -/
structure TokenStream where
  tokens : List Token
  failure : Option Failure
deriving Repr, Inhabited

end MergeGate.Yaml
