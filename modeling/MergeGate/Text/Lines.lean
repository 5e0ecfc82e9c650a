/-!
# Lines

A text is cut into lines at its line feeds, and a text is joined from parts with a separator.
Files are read with their line ends normalised: a carriage return, alone or before a line feed,
becomes a line feed.
-/

namespace MergeGate.Text

/-- The parts of a text between the occurrences of one character; there is always at least one
part. -/
def splitAt (sep : Char) : List Char → List (List Char)
  | [] => [[]]
  | c :: rest =>
    if c = sep then [] :: splitAt sep rest
    else
      match splitAt sep rest with
      | [] => [[c]]
      | part :: parts => (c :: part) :: parts

/-- The lines of a text, without their line feeds. -/
def lines (cs : List Char) : List (List Char) := splitAt '\n' cs

/-- Joins parts with a separator between each two. -/
def joinWith (sep : List Char) : List (List Char) → List Char
  | [] => []
  | [part] => part
  | part :: parts => part ++ sep ++ joinWith sep parts

/-- Joins strings with a separator between each two. -/
def join (sep : String) : List String → String
  | [] => ""
  | [part] => part
  | part :: parts => part ++ sep ++ join sep parts

/-- Writes every line end as a line feed. -/
def normalizeLineEnds : List Char → List Char
  | '\r' :: '\n' :: rest => '\n' :: normalizeLineEnds rest
  | '\r' :: rest => '\n' :: normalizeLineEnds rest
  | c :: rest => c :: normalizeLineEnds rest
  | [] => []

/-- What follows a text's opening characters, if the text does open with them. -/
def after? : List Char → List Char → Option (List Char)
  | [], cs => some cs
  | _ :: _, [] => none
  | w :: wanted, c :: cs => if w = c then after? wanted cs else none

/-- What follows a line end, LF or CRLF, if the text starts with one. -/
def afterLineEnd? : List Char → Option (List Char)
  | '\n' :: rest => some rest
  | '\r' :: '\n' :: rest => some rest
  | _ => none

theorem splitAt_ne_nil (sep : Char) (cs : List Char) : splitAt sep cs ≠ [] := by
  cases cs with
  | nil => simp [splitAt]
  | cons c rest =>
    simp only [splitAt]
    split
    · simp
    · split <;> simp

/-- Cutting a text at a separator that stands in it cuts its two sides separately. -/
theorem splitAt_append_cons (sep : Char) (a b : List Char) :
    splitAt sep (a ++ sep :: b) = splitAt sep a ++ splitAt sep b := by
  induction a with
  | nil => simp [splitAt]
  | cons c rest ih =>
    simp only [List.cons_append, splitAt]
    split
    · simp [ih]
    · rw [ih]
      cases h : splitAt sep rest with
      | nil => exact absurd h (splitAt_ne_nil sep rest)
      | cons part parts => simp

/-- A text without the separator is its own only part. -/
theorem splitAt_of_not_mem {sep : Char} {cs : List Char} (h : sep ∉ cs) :
    splitAt sep cs = [cs] := by
  induction cs with
  | nil => rfl
  | cons c rest ih =>
    have hc : c ≠ sep := fun hc => h (by simp [hc])
    have hrest : sep ∉ rest := fun hr => h (by simp [hr])
    simp [splitAt, hc, ih hrest]

/-- Cutting a text loses nothing: its parts joined by the separator are the text again. -/
theorem joinWith_splitAt (sep : Char) (cs : List Char) : joinWith [sep] (splitAt sep cs) = cs := by
  induction cs with
  | nil => rfl
  | cons c rest ih =>
    simp only [splitAt]
    split
    · next hc =>
      cases h : splitAt sep rest with
      | nil => exact absurd h (splitAt_ne_nil sep rest)
      | cons part parts =>
        rw [h] at ih
        simp [joinWith, ih, hc]
    · cases h : splitAt sep rest with
      | nil => exact absurd h (splitAt_ne_nil sep rest)
      | cons part parts =>
        rw [h] at ih
        cases parts with
        | nil => simp_all [joinWith]
        | cons next others => simp_all [joinWith]

/-- Parts without the separator are the parts of the text that they are joined to. -/
theorem splitAt_joinWith {sep : Char} {parts : List (List Char)} (hparts : parts ≠ [])
    (h : ∀ part ∈ parts, sep ∉ part) : splitAt sep (joinWith [sep] parts) = parts := by
  induction parts with
  | nil => exact absurd rfl hparts
  | cons part parts ih =>
    have hpart : splitAt sep part = [part] := splitAt_of_not_mem (h part List.mem_cons_self)
    cases parts with
    | nil => rw [joinWith, hpart]
    | cons next others =>
      have hrest := ih (by simp) fun q hq => h q (List.mem_cons_of_mem part hq)
      have hjoin : joinWith [sep] (part :: next :: others) =
          part ++ sep :: joinWith [sep] (next :: others) := by
        rw [joinWith, List.append_assoc, List.singleton_append]
        simp
      rw [hjoin, splitAt_append_cons, hpart, hrest, List.singleton_append]

end MergeGate.Text
