/-!
# Why a YAML text has no value
-/

namespace MergeGate.Yaml

/-- A reason for a YAML text not to be readable. -/
inductive Failure where
  /-- A character, token or structure that the language does not allow, an unknown tag or alias, or
  a key that is a collection. -/
  | malformed
  /-- A numeral, a day or a time that does not exist. -/
  | impossibleValue
  /-- An empty scalar that is marked as a number. -/
  | emptyNumber
  /-- A scalar that is marked as a truth value and is none of its words. -/
  | unknownTruthValue
  /-- A scalar that is marked as a time and does not look like one. -/
  | notATimestamp
  /-- A mapping that is marked as a time. -/
  | timestampMapping
  /-- A numeric escape far beyond the range of characters. -/
  | oversizedEscape
  /-- A float to the base sixty with a part whose weight no float can hold. -/
  | oversizedWeight
  /-- A mapping that is marked as a scalar and stands for itself. -/
  | endlessScalar
  /-- Too many collections inside one another. -/
  | tooDeep
deriving Repr, DecidableEq, Inhabited

end MergeGate.Yaml
