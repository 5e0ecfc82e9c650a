import MergeGate.Proofs.FrontMatterBlock

/-!
# Embedding a block in a document

A block of rules is written into a document between two lines of dashes, and all of it may stand in
a comment. Locating undoes this: the block comes back character by character, with its own line ends,
whatever it is framed with, and the rules of the document are those that the YAML text of the block
has under the key for them. Neither the frame nor anything behind it plays a part.

What cannot be embedded is a text with a line that would close the block, and one that ends with a
carriage return, which would be read as part of the line end behind it. Every other text can, also
one whose lines look nearly like a closing line: four dashes, dashes behind a space, dashes with a
word behind them.

## Conventions

* `IsMarkerLine`: a line, up to its line feed, that would close a block.
* `IsEmbeddable`: a text that can be embedded.
* `Frame`: what stands in front of a block and behind it; `Frame.around` is the document.
* `rulesUnderKey`: the rules that a YAML text has under the key for them.

## Main results

* `mem_lines_of_mem_rows`: the rows of a text are its lines, perhaps without a carriage return.
* `find?_eq_some_iff_around`: an embeddable text is located in the documents that it is embedded in,
  and in no others.
* `parse_of_find?`: the rules of a document are those of its block.
* `find?_around`: **an embedded block is located, and its document has the rules of the block.**
-/

namespace MergeGate.FrontMatter

open Text

/-! ### Texts that can be embedded -/

/-- A line, up to its line feed, that would close a block: three dashes, perhaps with spaces and tabs
behind them, and perhaps a carriage return at the end. -/
def IsMarkerLine (line : List Char) : Prop :=
  IsMarkerRow line ∨ ∃ row, IsMarkerRow row ∧ line = row ++ ['\r']

instance (line : List Char) : Decidable (IsMarkerLine line) :=
  decidable_of_iff (IsMarkerRow line ∨ line.getLast? = some '\r' ∧ IsMarkerRow line.dropLast) (by
    refine or_congr_right ⟨?_, ?_⟩
    · rintro ⟨hlast, hrow⟩
      obtain ⟨row, rfl⟩ := List.getLast?_eq_some_iff.mp hlast
      exact ⟨row, by rwa [List.dropLast_concat] at hrow, rfl⟩
    · rintro ⟨row, hrow, rfl⟩
      exact ⟨by simp, by rwa [List.dropLast_concat]⟩)

/-- A text that can be embedded: it does not end with a carriage return, and no line of it would close
the block. -/
structure IsEmbeddable (block : String) : Prop where
  whole : block.toList.getLast? ≠ some '\r'
  quiet : ∀ line ∈ lines block.toList, ¬ IsMarkerLine line

variable {cs row : List Char} {text block : String}

/-- A line with its line feed is a row with its line end. The line end takes the carriage return at the
end of the line with it, if there is one. -/
theorem exists_row_of_line {l : List Char} (hl : '\n' ∉ l) (rest : List Char) :
    ∃ row lineEnd, IsLineEnd lineEnd ∧ IsWholeBehind lineEnd row ∧ '\n' ∉ row ∧
      (l = row ∨ l = row ++ ['\r']) ∧ l ++ '\n' :: rest = row ++ (lineEnd ++ rest) := by
  by_cases hlast : l.getLast? = some '\r'
  · obtain ⟨row, rfl⟩ := List.getLast?_eq_some_iff.mp hlast
    exact ⟨row, ['\r', '\n'], .inr rfl, by simp [IsWholeBehind],
      fun hmem => hl (List.mem_append_left _ hmem), .inr rfl, by simp⟩
  · exact ⟨l, ['\n'], .inl rfl, fun _ => hlast, hl, .inl rfl, rfl⟩

/-- A row of a text is a line of it, or one without the carriage return at its end. -/
theorem mem_lines_of_mem_rows (h : row ∈ rows cs) : row ∈ lines cs ∨ row ++ ['\r'] ∈ lines cs := by
  induction cs using lines_induction with
  | last l hl =>
      rw [rows_of_not_mem hl] at h
      rw [lines_of_not_mem hl]
      exact .inl h
  | line l rest hl ih =>
      obtain ⟨first, lineEnd, hend, hwhole, hfirst, hline, htext⟩ := exists_row_of_line hl rest
      rw [htext, rows_append hend hwhole, rows_of_not_mem hfirst, List.singleton_append] at h
      rw [lines_append_cons hl]
      rcases List.mem_cons.mp h with rfl | hrest
      · exact hline.imp (by rintro rfl; exact List.mem_cons_self)
          (by rintro rfl; exact List.mem_cons_self)
      · exact (ih hrest).imp (List.mem_cons_of_mem l) (List.mem_cons_of_mem l)

namespace IsEmbeddable

variable {lineEnd : List Char}

/-- A line end behind an embeddable text is whole. -/
theorem isWholeBehind (h : IsEmbeddable block) (lineEnd : List Char) :
    IsWholeBehind lineEnd block.toList := fun _ => h.whole

/-- No row of an embeddable text is a marker row. -/
theorem not_isMarkerRow (h : IsEmbeddable block) (hrow : row ∈ rows block.toList) :
    ¬ IsMarkerRow row := by
  intro hmarker
  rcases mem_lines_of_mem_rows hrow with hline | hline
  · exact h.quiet row hline (.inl hmarker)
  · exact h.quiet _ hline (.inr ⟨row, hmarker, rfl⟩)

end IsEmbeddable

/-! ### Documents with a block -/

/-- A frame for a block: what stands in front of it and behind it in a document. The blanks at the
start, the comment, the blanks behind the dashes and the line ends are as the frame has them, and
anything may stand behind the line that closes the block, the end of the comment among it. -/
structure Frame where
  opening : List Char
  lineEnd : List Char
  closing : List Char
  behind : List Char
  isOpening : IsOpening opening
  isLineEnd : IsLineEnd lineEnd
  isMarkerRow : IsMarkerRow closing
  endsRow : EndsRow behind

/-- The document that has a block in a frame. -/
def Frame.around (f : Frame) (block : String) : String :=
  String.ofList (f.opening ++ (block.toList ++ (f.lineEnd ++ (f.closing ++ f.behind))))

/-- **An embeddable text is located in the documents that it is embedded in**, and in no others. -/
theorem find?_eq_some_iff_around (h : IsEmbeddable block) :
    find? text = some block ↔ ∃ f : Frame, text = f.around block := by
  constructor
  · intro hfind
    obtain ⟨opening, rest, hopening, htext⟩ := exists_opening_of_find? hfind
    have hread := (find?_eq_some_iff hopening htext).mp hfind
    obtain ⟨⟨lineEnd, cs, hend, -, rfl, hmarker⟩, -⟩ := untilClosing?_sound hread
    obtain ⟨tail, hcs, htail⟩ := exists_eq_firstRow_append cs
    refine ⟨⟨opening, lineEnd, firstRow cs, tail, hopening, hend, hmarker, htail⟩, ?_⟩
    rw [Frame.around, ← hcs, ← htext, String.ofList_toList]
  · rintro ⟨f, rfl⟩
    have hmarker : IsMarkerRow (firstRow (f.closing ++ f.behind)) := by
      rw [firstRow_append f.isMarkerRow.onOneLine f.endsRow]
      exact f.isMarkerRow
    refine (find?_eq_some_iff f.isOpening String.toList_ofList).mpr ?_
    exact untilClosing?_append f.isLineEnd (h.isWholeBehind f.lineEnd) hmarker fun row hrow =>
      h.not_isMarkerRow (List.mem_of_mem_tail hrow)

/-! ### The rules of a block -/

/-- What a value has under the key for rules, if it is a mapping with that key. A value that leads
back to the mapping stands for the mapping. -/
def underKey? : Value → Option Value
  | .mapping entries =>
    match Value.lookup validationKey entries with
    | some (.enclosing .mapping) => some (.mapping entries)
    | found => found
  | _ => none

/-- The rules that a YAML text has under the key for them. -/
def rulesUnderKey (yaml source : String) : Except Fault RuleSet :=
  match Yaml.load yaml with
  | .error failure => .error (RuleDocument.faultOf source (.yaml failure))
  | .ok v =>
    match underKey? v with
    | none => .error (.config source (.frontMatter .missingValidation))
    | some (.mapping (e :: entries)) => RuleDocument.rulesIn source (e :: entries)
    | some (.mapping []) | some .null => .error (.config source .noMapping)
    | some _ => .error (.config source (.frontMatter .validationNotMapping))

/-- **The rules of a document are those of its block.** -/
theorem parse_of_find? (h : find? text = some block) (source : String) :
    RuleDocument.parse text source true = rulesUnderKey block source := by
  obtain ⟨opening, rest, hopening, htext⟩ := exists_opening_of_find? h
  simp only [RuleDocument.parse, hopening.isBlankText_eq_false htext, RuleDocument.loadValue,
    validation?, h, rulesUnderKey, if_true, Bool.false_eq_true, if_false]
  cases Yaml.load block with
  | error failure => rfl
  | ok v =>
      cases v with
      | mapping entries =>
          cases hfound : Value.lookup validationKey entries with
          | none => simp only [underKey?, hfound, RuleDocument.faultOf]
          | some found =>
              cases found with
              | mapping rules =>
                  simp only [underKey?, hfound]
                  cases rules <;> rfl
              | enclosing kind =>
                  cases kind with
                  | mapping =>
                      -- The mapping that the key leads back to has that key, and so an entry.
                      cases entries with
                      | nil => cases hfound
                      | cons e entries => simp only [underKey?, hfound]
                  | _ => simp only [underKey?, hfound, RuleDocument.faultOf]
              | _ => simp only [underKey?, hfound, RuleDocument.faultOf]
      | _ => rfl

/-- **An embedded block is located, and its document has the rules of the block.** For a block that can
be embedded, the documents in which it is located are those that have it in a frame; and whatever the
frame is, the rules of the document, or the fault that it has none, are those of the YAML text of the
block. -/
theorem find?_around (h : IsEmbeddable block) :
    (∀ f : Frame, find? (f.around block) = some block) ∧
      (∀ text, find? text = some block → ∃ f : Frame, text = f.around block) ∧
      ∀ (f : Frame) (source : String),
        RuleDocument.parse (f.around block) source true = rulesUnderKey block source := by
  have hfind (f : Frame) : find? (f.around block) = some block :=
    (find?_eq_some_iff_around h).mpr ⟨f, rfl⟩
  exact ⟨hfind, fun text => (find?_eq_some_iff_around h).mp,
    fun f source => parse_of_find? (hfind f) source⟩

/-- A block with lines that look nearly like a closing line. -/
def nearMarkers : String := "----: 1\r\nnote: |\n ---\nvalidation:\n  require_labels: true\n"

/-- A frame in a comment, with all the blanks there can be, and with prose that has a rule below it. -/
def commentFrame : Frame where
  opening := "\n<!-- \t\r\n\n---  \r\n".toList
  lineEnd := ['\r', '\n']
  closing := "---\t".toList
  behind := "\n-->\nprose\n---\n".toList
  isOpening := ⟨['\n'], "<!-- \t\r\n\n".toList, [' ', ' '], ['\r', '\n'],
    forall_mem_of_all (by decide),
    .inr ⟨[' ', '\t'], ['\r', '\n'], ['\n'], forall_mem_of_all (by decide), .inr rfl,
      forall_mem_of_all (by decide), by decide⟩,
    forall_mem_of_all (by decide), .inr rfl, by decide⟩
  isLineEnd := .inr rfl
  isMarkerRow := by decide
  endsRow := .inr ⟨['\n'], "-->\nprose\n---\n".toList, .inl rfl, by decide⟩

/-- The block comes back from the comment, and its rules are in force. -/
theorem find?_around_nearMarkers :
    IsEmbeddable nearMarkers ∧ find? (commentFrame.around nearMarkers) = some nearMarkers ∧
      (RuleDocument.parse (commentFrame.around nearMarkers) "body" true).toOption =
        some { labels := true } := by
  have hblock : IsEmbeddable nearMarkers := ⟨by decide, by decide⟩
  obtain ⟨hfind, -, hparse⟩ := find?_around hblock
  refine ⟨hblock, hfind commentFrame, ?_⟩
  rw [hparse]
  decide +kernel

end MergeGate.FrontMatter
