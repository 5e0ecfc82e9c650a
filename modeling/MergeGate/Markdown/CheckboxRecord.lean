import MergeGate.Markdown.Checkbox
import MergeGate.Value.Lenient

/-!
# Checkboxes from values
-/

namespace MergeGate.Checkbox

/-- The checkbox that an indentation, a mark and a text make, read leniently. -/
def ofParts (indentation mark words : Value) : Checked Checkbox :=
  let indentation := (Lenient.checked (Lenient.count indentation)).under (.field "indentation")
  let mark := (Lenient.checked (Lenient.bool mark)).under (.field "checked")
  let words := (Lenient.checked (Lenient.text words)).under (.field "text")
  match indentation, mark, words with
  | .ok indentation, .ok mark, .ok words => .ok ⟨indentation, mark, words⟩
  | indentation, mark, words =>
    .error (indentation.problems ++ mark.problems ++ words.problems)

end MergeGate.Checkbox
