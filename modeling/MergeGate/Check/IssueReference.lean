import MergeGate.Finding
import MergeGate.Text.Blank
import MergeGate.Text.Case
import MergeGate.Text.Digit
import MergeGate.Text.Word

/-!
# References to issues

A description refers to an issue with a keyword such as `Fixes`, a separator, and the number of
the issue after a number sign; an owner and a repository may stand before the number sign. The
separator is a colon with blanks around it, or blanks alone. The keyword must not be the end of
a longer word.
-/

namespace MergeGate.IssueReference

open Text

/-- The keywords that link an issue. -/
def keywords : List String :=
  ["close", "closes", "closed", "fix", "fixes", "fixed", "resolve", "resolves", "resolved"]

/-- A character of the name of an owner or a repository. -/
def isNameChar (c : Char) : Bool :=
  isAsciiLetter c || isAsciiDigit c || c == '_' || c == '.' || c == '-' || foldedLetters.contains c

/-- What follows a separator, if the text starts with one. -/
def afterSeparator? (cs : List Char) : Option (List Char) :=
  match cs.dropWhile isBlank with
  | ':' :: rest => some (rest.dropWhile isBlank)
  | rest => if cs.head?.any isBlank then some rest else none

/-- A number sign and the digits after it, if the text starts so with at least one digit. -/
def number? : List Char → Option (List Char)
  | '#' :: rest =>
    match rest.takeWhile isDigit with
    | [] => none
    | ds => some ('#' :: ds)
  | _ => none

/-- An owner, a slash, a repository and a number, if the text starts so. -/
def qualified? (cs : List Char) : Option (List Char) :=
  let owner := cs.takeWhile isNameChar
  match cs.dropWhile isNameChar with
  | '/' :: rest =>
    let repository := rest.takeWhile isNameChar
    if owner.isEmpty || repository.isEmpty then none
    else (number? (rest.dropWhile isNameChar)).map fun n => owner ++ '/' :: repository ++ n
  | _ => none

/-- The reference that a text starts with, if it does. -/
def reference? (cs : List Char) : Option (List Char) := (number? cs).or (qualified? cs)

/-- The reference of a link that a text starts with, if it does. -/
def link? (cs : List Char) : Option (List Char) :=
  keywords.findSome? fun keyword =>
    (afterIgnoringCase? keyword.toList cs).bind fun rest => (afterSeparator? rest).bind reference?

/-- The reference of the first link of a text. The flag says whether a word ends right before the
text. -/
def findFrom? : Bool → List Char → Option (List Char)
  | _, [] => none
  | inWord, c :: rest =>
    match (if inWord then none else link? (c :: rest)) with
    | some r => some r
    | none => findFrom? (isWord c) rest

/-- The first reference to an issue in a description. -/
def find? (body : String) : Option String := (findFrom? false body.toList).map String.ofList

/-- A description needs a reference to an issue. -/
def findings (body : String) : List Finding :=
  if (find? body).isSome then [] else [.noIssueReference]

end MergeGate.IssueReference
