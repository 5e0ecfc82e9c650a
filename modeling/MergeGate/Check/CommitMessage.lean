import MergeGate.Finding
import MergeGate.Text.Case
import MergeGate.Text.Digit

/-!
# The convention for commit messages

The first line of a commit message reads `type(scope)!: subject`, where the scope with its
brackets and the exclamation mark may be left out. A rule may name the types and the scopes in
use; they are compared in lower case.
-/

namespace MergeGate.CommitMessage

open Text

/-- A letter of a type: an ASCII letter, or one of the letters that match one when case is
ignored. -/
def isTypeChar (c : Char) : Bool := isAsciiLetter c || foldedLetters.contains c

/-- A character of a scope. -/
def isScopeChar (c : Char) : Bool :=
  isTypeChar c || isAsciiDigit c || c == '_' || c == '-'

/-- The type and the scope of a first line. -/
structure Head where
  type : List Char
  scope : Option (List Char)
deriving Repr, DecidableEq

/-- Whether a text is the rest of a first line after type and scope: perhaps an exclamation mark,
then a colon, a blank and a subject. -/
def endsHead : List Char → Bool
  | '!' :: ':' :: ' ' :: rest => !rest.isEmpty
  | ':' :: ' ' :: rest => !rest.isEmpty
  | _ => false

/-- The scope between brackets that a text starts with, and what follows it. -/
def scope? : List Char → Option (List Char × List Char)
  | '(' :: rest =>
    match rest.takeWhile isScopeChar, rest.dropWhile isScopeChar with
    | c :: cs, ')' :: tail => some (c :: cs, tail)
    | _, _ => none
  | _ => none

/-- The type and the scope of a first line that follows the convention. -/
def head? (line : List Char) : Option Head :=
  let type := line.takeWhile isTypeChar
  let rest := line.dropWhile isTypeChar
  if type.isEmpty then none
  else
    match scope? rest with
    | some (scope, tail) => if endsHead tail then some ⟨type, some scope⟩ else none
    | none => if endsHead rest then some ⟨type, none⟩ else none

/-- Whether a word is among the allowed ones, in lower case. No allowed words stand for any. -/
def isAllowed (word : List Char) (allowed : List String) : Bool :=
  allowed.isEmpty || (allowed.map fun a => lowerCase a.toList).contains (lowerCase word)

/-- What is wrong with a commit message, if something is. -/
def flaw? (types : List String) (scopes : Option (List String)) (commit : Commit) :
    Option CommitFlaw :=
  match head? commit.subject.toList with
  | none => some .format
  | some head =>
    if !isAllowed head.type types then some (.type (String.ofList head.type) types)
    else
      match head.scope, scopes with
      | some scope, some allowed =>
        if isAllowed scope allowed then none else some (.scope (String.ofList scope) allowed)
      | _, _ => none

/-- The violation that a commit is, if it is one. -/
def violation? (types : List String) (scopes : Option (List String)) (commit : Commit) :
    Option CommitViolation :=
  (flaw? types scopes commit).map fun flaw => ⟨commit, flaw⟩

end MergeGate.CommitMessage
