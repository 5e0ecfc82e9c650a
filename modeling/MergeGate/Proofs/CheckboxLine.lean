import MergeGate.Markdown.Checkbox
import MergeGate.Proofs.Trimming

/-!
# Lines that are checkboxes

Whether a line is a checkbox, and which one, is a matter of its form: blanks, a dash, a box with a mark
in it, a space, and something behind that is more than carriage returns. From this form two things
follow. Checkboxes that are written on lines of their own are read back as they are, whatever other
lines stand between them and whichever line ends are used; and a text is read line by line, so that
the checkboxes of two texts with a line feed between them are those of the one and then those of the
other.

The words behind a box may be anything on one line, the look of another checkbox and carriage returns
among them. Only the blanks at their ends are lost.

## Conventions

* `IsBoxLine`: a line has the form of a checkbox.
* `IsLabel`: a text that a checkbox can have.
* `Item`: a checkbox as it is written on a line.
* `Row`: a line of a text, an item or any line that has not the form of a checkbox.
* `render`: the text that has the rows, each with its line end.

## Main results

* `ofLine?_eq_some_iff`: **the form of a line is the checkbox that it is.**
* `Item.ofLine?_line`: a written item is read back.
* `ofChars_render_append`: the rows at the start of a text are read back.
* `parse_render`: **written checkboxes are read back**, and texts are read one after the other.
-/

namespace MergeGate

open Text

namespace Checkbox

/-! ### The form of a line -/

section Form

variable {line blanks rest : List Char} {mark : Char} {b : Checkbox}

/-- A carriage return is a blank. -/
theorem isBlank_of_carriageReturn (c : Char) (hc : (c == '\r') = true) : isBlank c = true := by
  rw [eq_of_beq hc]
  decide

/-- The opening of a box: what stands before its words. -/
def opening (mark : Char) : List Char := ['-', ' ', '[', mark, ']', ' ']

/-- A text starts with a box exactly if it is the opening of one with some words behind it. -/
theorem box?_eq_some_iff {cs words : List Char} {mark : Char} :
    box? cs = some (mark, words) ↔ isMark mark = true ∧ words ≠ [] ∧ cs = opening mark ++ words := by
  constructor
  · intro h
    unfold box? at h
    split at h
    · next m c rest =>
        split at h
        · next hm =>
            cases h
            exact ⟨hm, by simp, rfl⟩
        · cases h
    · cases h
  · rintro ⟨hmark, hwords, rfl⟩
    obtain ⟨c, rest, rfl⟩ := List.exists_cons_of_ne_nil hwords
    simp [opening, box?, hmark]

/-- The blanks in front of a box are all blanks that a line starts with. -/
theorem countWhile_append_opening (hblanks : ∀ c ∈ blanks, isBlank c = true) (mark : Char)
    (words : List Char) : countWhile isBlank (blanks ++ (opening mark ++ words)) = blanks.length := by
  have hdashed : (opening mark ++ words).takeWhile isBlank = [] := rfl
  rw [countWhile, List.takeWhile_append_of_pos hblanks, hdashed, List.append_nil]

/-- A line is put together from blanks, the opening of a box and something behind it that is more than
carriage returns. -/
structure HasForm (line blanks : List Char) (mark : Char) (rest : List Char) : Prop where
  isBlank_blanks : ∀ c ∈ blanks, isBlank c = true
  isMark_mark : isMark mark = true
  exists_rest : ∃ c ∈ rest, c ≠ '\r'
  line_eq : line = blanks ++ (opening mark ++ rest)

/-- A line has the form of a checkbox. -/
def IsBoxLine (line : List Char) : Prop := ∃ blanks mark rest, HasForm line blanks mark rest

/-- Something is left of a text without the carriage returns at its end if it is more than carriage
returns. -/
theorem dropEndWhile_carriageReturn_ne_nil : dropEndWhile (· == '\r') rest ≠ [] ↔
    ∃ c ∈ rest, c ≠ '\r' := by
  simp [dropEndWhile_eq_nil_iff]

/-- What a line of this form is read as. -/
theorem HasForm.ofLine?_eq (h : HasForm line blanks mark rest) :
    ofLine? line = some ⟨blanks.length, mark != ' ', String.ofList (trim rest)⟩ := by
  obtain ⟨hblanks, hmark, hrest, rfl⟩ := h
  have hwords : dropEndWhile (· == '\r') rest ≠ [] := dropEndWhile_carriageReturn_ne_nil.mpr hrest
  have hline : dropEndWhile (· == '\r') (blanks ++ (opening mark ++ rest)) =
      blanks ++ (opening mark ++ dropEndWhile (· == '\r') rest) := by
    rw [← List.append_assoc, dropEndWhile_append hwords, List.append_assoc]
  have hdash (words : List Char) :
      (opening mark ++ words).dropWhile isBlank = opening mark ++ words := rfl
  have hbox := box?_eq_some_iff.mpr ⟨hmark, hwords, rfl⟩
  simp only [ofLine?, hline, List.dropWhile_append_of_pos hblanks, hdash, hbox,
    countWhile_append_opening hblanks, Option.map_some, trim_dropEndWhile isBlank_of_carriageReturn]

/-- **The form of a line is the checkbox that it is.** The blanks in front of the dash are counted, a box
is ticked unless a space stands in it, and what stands behind it is trimmed. -/
theorem ofLine?_eq_some_iff : ofLine? line = some b ↔
    ∃ blanks mark rest, HasForm line blanks mark rest ∧
      b = ⟨blanks.length, mark != ' ', String.ofList (trim rest)⟩ := by
  constructor
  · intro h
    obtain ⟨⟨mark, words⟩, hbox, -⟩ := Option.map_eq_some_iff.mp h
    obtain ⟨hmark, hwords, hcs⟩ := box?_eq_some_iff.mp hbox
    obtain ⟨dropped, hline, -⟩ := exists_dropEndWhile_append (· == '\r') line
    have hkept : dropEndWhile (· == '\r') words = words :=
      dropEndWhile_of_suffix ((hcs ▸ List.suffix_append _ words).trans (List.dropWhile_suffix isBlank))
    obtain ⟨c, hc, hne⟩ := dropEndWhile_carriageReturn_ne_nil.mp (hkept.symm ▸ hwords)
    have hform : HasForm line ((dropEndWhile (· == '\r') line).takeWhile isBlank) mark
        (words ++ dropped) := by
      refine ⟨fun _ => List.mem_takeWhile_imp, hmark, ⟨c, List.mem_append_left _ hc, hne⟩, ?_⟩
      rw [← List.append_assoc (opening mark), ← hcs, ← List.append_assoc,
        List.takeWhile_append_dropWhile, ← hline]
    exact ⟨_, _, _, hform, Option.some.inj (h.symm.trans hform.ofLine?_eq)⟩
  · rintro ⟨blanks, mark, rest, hform, rfl⟩
    exact hform.ofLine?_eq

/-- A line is a checkbox exactly if it has the form of one. -/
theorem ofLine?_isSome_iff : (ofLine? line).isSome = true ↔ IsBoxLine line := by
  rw [Option.isSome_iff_exists]
  constructor
  · rintro ⟨b, hb⟩
    obtain ⟨blanks, mark, rest, hform, -⟩ := ofLine?_eq_some_iff.mp hb
    exact ⟨blanks, mark, rest, hform⟩
  · rintro ⟨blanks, mark, rest, hform⟩
    exact ⟨_, hform.ofLine?_eq⟩

instance (line : List Char) : Decidable (IsBoxLine line) := decidable_of_iff _ ofLine?_isSome_iff

/-- A carriage return at the end of a line is no part of its checkbox. -/
theorem ofLine?_concat_carriageReturn (line : List Char) :
    ofLine? (line ++ ['\r']) = ofLine? line := by
  have hdropped : dropEndWhile (· == '\r') (line ++ ['\r']) = dropEndWhile (· == '\r') line :=
    dropEndWhile_append_of_all (by simp) line
  simp only [ofLine?, hdropped]

/-- Blanks, the opening of a box, trimmed words and blanks are a checkbox. -/
theorem ofLine?_append {words trailing : List Char} (hblanks : ∀ c ∈ blanks, isBlank c = true)
    (hmark : isMark mark = true) (hwords : words ≠ []) (htrim : trim words = words)
    (htrailing : ∀ c ∈ trailing, isBlank c = true) :
    ofLine? (blanks ++ (opening mark ++ (words ++ trailing))) =
      some ⟨blanks.length, mark != ' ', String.ofList words⟩ := by
  obtain ⟨c, hc, hfilled⟩ : ∃ c ∈ words, isBlank c = false := by
    have hnot : ¬ ∀ c ∈ words, isBlank c = true := by rwa [← trim_eq_nil_iff, htrim]
    simpa using hnot
  have hrest : ∃ c ∈ words ++ trailing, c ≠ '\r' := by
    refine ⟨c, List.mem_append_left _ hc, ?_⟩
    rintro rfl
    exact absurd hfilled (by decide)
  rw [HasForm.ofLine?_eq ⟨hblanks, hmark, hrest, rfl⟩, trim_append_of_all htrailing, htrim]

end Form

/-! ### Items -/

/-- A text that a checkbox can have: trimmed, not empty and on one line. -/
def IsLabel (text : String) : Prop :=
  text ≠ "" ∧ trim text.toList = text.toList ∧ '\n' ∉ text.toList

/-- Blanks on one line. -/
def IsGap (cs : List Char) : Prop := ∀ c ∈ cs, isBlank c = true ∧ c ≠ '\n'

instance (cs : List Char) : Decidable (IsGap cs) :=
  decidable_of_iff (cs.all fun c => isBlank c && c != '\n') (by simp [IsGap])

/-- A checkbox as it is written: the blanks in front of it, the mark in its box, its text and the blanks
behind that. -/
structure Item where
  indent : List Char
  mark : Char
  text : String
  trailing : List Char
  isGap_indent : IsGap indent
  isMark_mark : isMark mark = true
  isLabel_text : IsLabel text
  isGap_trailing : IsGap trailing

namespace Item

variable (i : Item)

/-- The line on which an item is written. -/
def line : List Char := i.indent ++ (opening i.mark ++ (i.text.toList ++ i.trailing))

/-- The checkbox that an item is. -/
def box : Checkbox := ⟨i.indent.length, i.mark == 'x' || i.mark == 'X', i.text⟩

/-- **A written item is read back.** -/
theorem ofLine?_line : ofLine? i.line = some i.box := by
  obtain ⟨indent, mark, text, trailing, hindent, hmark, ⟨htext, htrim, -⟩, htrailing⟩ := i
  have hchecked : (mark != ' ') = (mark == 'x' || mark == 'X') := by
    rw [isMark, Bool.or_eq_true, Bool.or_eq_true, beq_iff_eq, beq_iff_eq, beq_iff_eq] at hmark
    rcases hmark with (rfl | rfl) | rfl <;> rfl
  rw [line, ofLine?_append (fun c hc => (hindent c hc).1) hmark (by simpa using htext) htrim
    fun c hc => (htrailing c hc).1, box, hchecked, String.ofList_toList]

/-- An item is written on one line. -/
theorem lineFeed_not_mem_line : '\n' ∉ i.line := by
  have hmark : '\n' ∉ opening i.mark := by
    have hne : '\n' ≠ i.mark := by
      rintro h
      exact absurd (h ▸ i.isMark_mark) (by decide)
    simp [opening, hne]
  simp only [line, List.mem_append, not_or]
  exact ⟨fun h => (i.isGap_indent _ h).2 rfl, hmark, i.isLabel_text.2.2,
    fun h => (i.isGap_trailing _ h).2 rfl⟩

end Item

/-! ### Rows -/

/-- A line of a text: an item, or any line that has not the form of a checkbox. -/
inductive Row where
  | item (i : Item)
  | other (line : List Char) (isSingle : '\n' ∉ line) (isOther : ¬ IsBoxLine line)

namespace Row

/-- The line that a row is. -/
def line : Row → List Char
  | item i => i.line
  | other line _ _ => line

/-- The item that a row is, if it is one. -/
def item? : Row → Option Item
  | item i => some i
  | other _ _ _ => none

/-- A row is one line. -/
theorem lineFeed_not_mem_line (row : Row) : '\n' ∉ row.line := by
  cases row with
  | item i => exact i.lineFeed_not_mem_line
  | other line isSingle _ => exact isSingle

/-- A row is read as the item that it is. -/
theorem ofLine?_line (row : Row) : ofLine? row.line = row.item?.map Item.box := by
  cases row with
  | item i => exact i.ofLine?_line
  | other line _ isOther => exact Option.not_isSome_iff_eq_none.mp (mt ofLine?_isSome_iff.mp isOther)

end Row

/-- The two kinds of line ends. -/
inductive LineEnd where
  | lineFeed
  | carriageReturnLineFeed

/-- What a line end is written as. -/
def LineEnd.chars : LineEnd → List Char
  | lineFeed => ['\n']
  | carriageReturnLineFeed => ['\r', '\n']

/-- A text with rows, each with its line end. -/
def render (rows : List (Row × LineEnd)) : List Char :=
  rows.flatMap fun r => r.1.line ++ r.2.chars

/-- The items of a text, in order. -/
def itemsOf (rows : List (Row × LineEnd)) : List Item := rows.filterMap fun r => r.1.item?

/-- On one line there is one checkbox at most. -/
theorem ofChars_of_not_mem {line : List Char} (hline : '\n' ∉ line) :
    ofChars line = (ofLine? line).toList := by
  rw [ofChars, lines_of_not_mem hline, List.filterMap_cons]
  cases ofLine? line <;> rfl

/-- A line with its line end is read before the text behind it. -/
theorem ofChars_line_append {line : List Char} (hline : '\n' ∉ line) (lineEnd : LineEnd)
    (cs : List Char) : ofChars (line ++ (lineEnd.chars ++ cs)) = (ofLine? line).toList ++ ofChars cs := by
  cases lineEnd with
  | lineFeed => rw [LineEnd.chars, List.singleton_append, ofChars_append_cons, ofChars_of_not_mem hline]
  | carriageReturnLineFeed =>
      have hreturn : '\n' ∉ line ++ ['\r'] := by simp [hline]
      rw [LineEnd.chars, List.cons_append, List.singleton_append, List.append_cons, ofChars_append_cons,
        ofChars_of_not_mem hreturn, ofLine?_concat_carriageReturn]

/-- **The rows at the start of a text are read back.** -/
theorem ofChars_render_append (rows : List (Row × LineEnd)) (cs : List Char) :
    ofChars (render rows ++ cs) = (itemsOf rows).map Item.box ++ ofChars cs := by
  induction rows with
  | nil => rfl
  | cons r rest ih =>
      obtain ⟨row, lineEnd⟩ := r
      rw [render, List.flatMap_cons, ← render, List.append_assoc, List.append_assoc,
        ofChars_line_append row.lineFeed_not_mem_line, ih, row.ofLine?_line]
      cases row <;> rfl

/-- **Written checkboxes are read back.** A text of items, with any other lines between them and with
either line end behind each line, has the checkboxes that these items are, in order: the number of
blanks in front, ticked if an `x` or an `X` stands in the box, and the text. Two texts with a line feed
between them have the checkboxes of the one and then those of the other. -/
theorem parse_render :
    (∀ rows : List (Row × LineEnd),
      parse (String.ofList (render rows)) = (itemsOf rows).map Item.box) ∧
    ∀ a b : String, parse (a ++ "\n" ++ b) = parse a ++ parse b := by
  constructor
  · intro rows
    have hnothing : ofChars [] = [] := rfl
    rw [parse, String.toList_ofList, ← List.append_nil (render rows), ofChars_render_append, hnothing,
      List.append_nil]
  · intro a b
    have hjoined : (a ++ "\n" ++ b).toList = a.toList ++ '\n' :: b.toList := by simp
    rw [parse, hjoined, ofChars_append_cons, parse, parse]

/-- The text of an item may look like an item, and a line with another mark is none. -/
example : parse (String.ofList (render [
    (.item ⟨['\t'], 'X', "- [x] a\rb", [' '], by decide, by decide,
      ⟨by decide, by decide, by decide⟩, by decide⟩, .carriageReturnLineFeed),
    (.other "- [y] c".toList (by decide) (by decide), .lineFeed)])) = [⟨1, true, "- [x] a\rb"⟩] := by
  decide

end Checkbox

end MergeGate
