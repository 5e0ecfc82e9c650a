import MergeGate.Fault
import MergeGate.Markdown.FrontMatter
import MergeGate.Rule.Decode
import MergeGate.Yaml.Document

/-!
# Rule documents

A rule document is a YAML text, or a Markdown text whose front matter has the rules under the key
`validation`. A document that gives no rules is a fault of the source it comes from, with the
reason; only a scalar with a tag that its text does not fit, and collections that are too deep
inside one another, fail in their own right.
-/

namespace MergeGate

open Text

/-- The key of the front matter under which the rules stand. -/
def validationKey : String := "validation"

/-- The rules in the front matter of a Markdown text as a mapping, unless it has no front matter.
Rules that are null are the empty mapping. -/
def FrontMatter.validation? (text : String) : Except Fault (Option Value) :=
  match FrontMatter.find? text with
  | none => .ok none
  | some block =>
    match Yaml.load block with
    | .error failure => .error (.yaml failure)
    | .ok (.mapping entries) =>
      match Value.lookup validationKey entries with
      | none => .error (.frontMatter .missingValidation)
      | some .null => .ok (some (.mapping []))
      | some (.mapping rules) => .ok (some (.mapping rules))
      | some (.enclosing .mapping) => .ok (some (.mapping entries))
      | some _ => .error (.frontMatter .validationNotMapping)
    | .ok _ => .error (.frontMatter .missingValidation)

namespace RuleDocument

/-- Whether a text is blank. -/
def isBlankText (text : String) : Bool := text.toList.all isBlank

/-- The reason that a YAML failure gives a document no rules. The failures of scalars that are
marked with a tag which does not fit are no such reason, and neither is the limit for collections
inside one another. -/
def yamlReason? : Yaml.Failure → Option ConfigFault
  | .malformed => some .malformedYaml
  | .impossibleValue => some .impossibleValue
  | _ => none

/-- What a fault in loading a document means for its source. -/
def faultOf (source : String) : Fault → Fault
  | .yaml failure =>
    match yamlReason? failure with
    | some reason => .config source reason
    | none => .yaml failure
  | .frontMatter fault => .config source (.frontMatter fault)
  | other => other

/-- The value of a document, before it is read as rules. -/
def loadValue (text source : String) (markdown : Bool) : Except Fault Value :=
  if markdown then
    match FrontMatter.validation? text with
    | .ok (some v) => .ok v
    | .ok none => .error (.config source .noFrontMatter)
    | .error fault => .error (faultOf source fault)
  else
    match Yaml.load text with
    | .ok v => .ok v
    | .error failure => .error (faultOf source (.yaml failure))

/-- Whether the setting for issues, which is displayed, has too many collections inside one another
for that. -/
def isTooDeep (entries : List (Value × Value)) : Bool :=
  match Value.lookup "issue_number" entries with
  | some v => Value.maxDepth < v.depth
  | none => false

/-- The rules of a document with members. -/
def rulesIn (source : String) (entries : List (Value × Value)) : Except Fault RuleSet :=
  if isTooDeep entries then .error (.yaml .tooDeep)
  else
    match RuleSet.ofEntries entries with
    | .ok rules => .ok rules
    | .error problems => .error (.config source (.invalid problems))

/-- The rules of a document from a source. -/
def parse (text source : String) (markdown : Bool) : Except Fault RuleSet :=
  if isBlankText text then .error (.config source .emptyDocument)
  else
    match loadValue text source markdown with
    | .error fault => .error fault
    | .ok v =>
      match v with
      | .mapping (e :: entries) => rulesIn source (e :: entries)
      | _ => .error (.config source .noMapping)

end RuleDocument

end MergeGate
