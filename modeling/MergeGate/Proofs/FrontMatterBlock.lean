import Mathlib.Data.List.TakeWhile
import MergeGate.Proofs.CharacterClass
import MergeGate.Proofs.LineEnds
import MergeGate.Proofs.SectionSlice
import MergeGate.RuleDocument

/-!
# Where the block of a front matter ends

A front matter stands between two lines of three dashes, and its block is meant to end at the first
such line behind the opening. This module says where it does end. A closing line is looked for
together with the line end in front of it, and the line end of the opening is already consumed. So a
marker row right behind the opening is no closing line: it is read as the first row of the block,
which then ends at the next marker row, if there is one. In all other documents exactly the text up to
the first marker row is read, and nothing behind that row.

A text is told by its rows, which end at a line feed or at a carriage return with a line feed; a
carriage return alone belongs to its row. Where two texts are put together with a line end between
them, their rows are put together, unless the one ends with a carriage return and the line end is a
line feed (`IsWholeBehind`). That is all that is needed to follow the search, which goes character by
character.

## Conventions

* `rows`, `firstRow`: the rows of a text, without their line ends.
* `IsMarkerRow`: three dashes, perhaps with spaces and tabs behind them.
* `IsOpening`: what a document with a front matter opens with.
* `ClosedBehind`: a marker row stands behind a block, with a line end between them.
* `IsBetween`: the text strictly between the opening and the first marker row behind it.

## Main results

* `rows_append`: the rows of two texts with a line end between them.
* `startsClosing_iff`: what starts a closing line.
* `untilClosing?_eq_some_iff`: **what is read up to a closing line.**
* `behindOpening?_eq_some_iff`: which documents have an opening, and what stands behind it.
* `find?_block`: **where the block ends**, and that nothing behind its closing line matters.
* `not_forall_find?_isBetween`: a block that is meant to be empty is read as the text behind it.
-/

namespace MergeGate.FrontMatter

open Text

/-! ### Rows -/

/-- A line end: a line feed, perhaps with a carriage return before it. -/
def IsLineEnd (lineEnd : List Char) : Prop := lineEnd = ['\n'] ∨ lineEnd = ['\r', '\n']

/-- The rows of a text, without their line ends. A carriage return alone ends no row. -/
def rows : List Char → List (List Char)
  | [] => [[]]
  | '\n' :: rest => [] :: rows rest
  | '\r' :: '\n' :: rest => [] :: rows rest
  | c :: rest =>
    match rows rest with
    | [] => [[c]]
    | row :: others => (c :: row) :: others

/-- A line end that stands behind a text does not have its carriage return in that text. -/
def IsWholeBehind (lineEnd cs : List Char) : Prop := lineEnd = ['\n'] → cs.getLast? ≠ some '\r'

/-- The first row of a text. -/
def firstRow (cs : List Char) : List Char := (rows cs).headD []

/-- A text that stands behind a row: a line end with what follows it, or nothing. -/
def EndsRow (tail : List Char) : Prop :=
  tail = [] ∨ ∃ lineEnd rest, IsLineEnd lineEnd ∧ tail = lineEnd ++ rest

/-- A row of three dashes, perhaps with blanks behind them. -/
def IsMarkerRow (row : List Char) : Prop :=
  ∃ pad, row = marker ++ pad ∧ ∀ c ∈ pad, isSpaceOrTab c = true

instance (row : List Char) : Decidable (IsMarkerRow row) :=
  decidable_of_iff (row = marker ++ row.drop 3 ∧ (row.drop 3).all isSpaceOrTab = true) (by
    rw [List.all_eq_true]
    constructor
    · exact fun h => ⟨_, h⟩
    · rintro ⟨pad, rfl, hpad⟩
      exact ⟨rfl, hpad⟩)

variable {cs rest a b row lineEnd block opening : List Char} {c : Char}

/-- There is always at least one row. -/
theorem rows_ne_nil (cs : List Char) : rows cs ≠ [] := by
  unfold rows
  split
  · simp
  · simp
  · simp
  · split <;> simp

/-- The rows of a text are its first row and the others. -/
theorem rows_eq_cons (cs : List Char) : rows cs = firstRow cs :: (rows cs).tail := by
  obtain ⟨row, others, h⟩ := List.exists_cons_of_ne_nil (rows_ne_nil cs)
  rw [firstRow, h]
  rfl

/-- A character that starts no line end belongs to the first row. -/
theorem rows_cons (hc : c ≠ '\n') (hcr : c = '\r' → cs.head? ≠ some '\n') :
    rows (c :: cs) = (c :: firstRow cs) :: (rows cs).tail := by
  rw [rows, rows_eq_cons cs]
  · rfl
  · exact hc
  · rintro rest rfl rfl
    exact hcr rfl rfl

/-- The rows behind the first one, of a text with one more character. -/
theorem tail_rows_cons (c : Char) (cs : List Char) :
    (rows (c :: cs)).tail = if c = '\n' then rows cs else (rows cs).tail := by
  by_cases hc : c = '\n'
  · rw [if_pos hc, hc]
    rfl
  · rw [if_neg hc]
    by_cases hcr : c = '\r' → cs.head? ≠ some '\n'
    · rw [rows_cons hc hcr]
      rfl
    · simp only [not_forall, not_not] at hcr
      obtain ⟨rfl, hcs⟩ := hcr
      obtain ⟨rest, rfl⟩ := List.head?_eq_some_iff.mp hcs
      rfl

/-- A line end that is whole behind a text is whole behind the end of the text. -/
theorem IsWholeBehind.of_append (h : IsWholeBehind lineEnd (a ++ b)) : IsWholeBehind lineEnd b := by
  intro hend hlast
  refine h hend ?_
  rw [List.getLast?_append, hlast]
  rfl

/-- A line end that is whole behind a text is whole behind the text without its first character. -/
theorem IsWholeBehind.of_cons (h : IsWholeBehind lineEnd (c :: a)) : IsWholeBehind lineEnd a :=
  IsWholeBehind.of_append (a := [c]) h

/-- A text that starts with a line end has an empty first row. -/
theorem rows_lineEnd (hend : IsLineEnd lineEnd) (cs : List Char) :
    rows (lineEnd ++ cs) = [] :: rows cs := by
  rcases hend with rfl | rfl <;> rfl

/-- A character that starts no line end in a text starts none with a line end behind that text. -/
theorem IsWholeBehind.head?_ne (h : IsWholeBehind lineEnd (c :: a)) (hend : IsLineEnd lineEnd)
    (hcr : c = '\r' → a.head? ≠ some '\n') (b : List Char) :
    c = '\r' → (a ++ (lineEnd ++ b)).head? ≠ some '\n' := by
  rintro rfl hhead
  cases a with
  | nil =>
      rcases hend with rfl | rfl
      · exact h rfl rfl
      · exact absurd hhead (by simp)
  | cons d a => exact hcr rfl hhead

/-- **The rows of two texts with a line end between them** are those of the one and of the other. -/
theorem rows_append (hend : IsLineEnd lineEnd) (hwhole : IsWholeBehind lineEnd a)
    (b : List Char) : rows (a ++ (lineEnd ++ b)) = rows a ++ rows b := by
  induction a with
  | nil => exact rows_lineEnd hend b
  | cons c a ih =>
      have hrest := ih hwhole.of_cons
      by_cases hc : c = '\n'
      · rw [hc]
        exact congrArg ([] :: ·) hrest
      · by_cases hcr : c = '\r' → a.head? ≠ some '\n'
        · have hfirst : firstRow (a ++ (lineEnd ++ b)) = firstRow a := by
            rw [firstRow, hrest, rows_eq_cons a]
            rfl
          have htail : (rows (a ++ (lineEnd ++ b))).tail = (rows a).tail ++ rows b := by
            rw [hrest, rows_eq_cons a]
            rfl
          rw [List.cons_append, rows_cons hc (hwhole.head?_ne hend hcr b), rows_cons hc hcr, hfirst,
            htail, List.cons_append]
        · simp only [not_forall, not_not] at hcr
          obtain ⟨rfl, hhead⟩ := hcr
          obtain ⟨a, rfl⟩ := List.head?_eq_some_iff.mp hhead
          exact hrest

/-- A text without line feeds is one row. -/
theorem rows_of_not_mem (h : '\n' ∉ cs) : rows cs = [cs] := by
  induction cs with
  | nil => rfl
  | cons c cs ih =>
      rw [List.mem_cons, not_or] at h
      have hhead : cs.head? ≠ some '\n' := fun hhead => h.2 (List.mem_of_mem_head? hhead)
      rw [rows_cons (Ne.symm h.1) fun _ => hhead, firstRow, ih h.2]
      rfl

/-- Behind the first row stands a line end or nothing. -/
theorem exists_eq_firstRow_append (cs : List Char) :
    ∃ tail, cs = firstRow cs ++ tail ∧ EndsRow tail := by
  induction cs with
  | nil => exact ⟨[], rfl, .inl rfl⟩
  | cons c cs ih =>
      by_cases hc : c = '\n'
      · subst hc
        exact ⟨_, rfl, .inr ⟨['\n'], cs, .inl rfl, rfl⟩⟩
      · by_cases hcr : c = '\r' → cs.head? ≠ some '\n'
        · obtain ⟨tail, hcs, htail⟩ := ih
          have hfirst : firstRow (c :: cs) = c :: firstRow cs := by
            rw [firstRow, rows_cons hc hcr]
            rfl
          refine ⟨tail, ?_, htail⟩
          rw [hfirst, List.cons_append, ← hcs]
        · simp only [not_forall, not_not] at hcr
          obtain ⟨rfl, hhead⟩ := hcr
          obtain ⟨rest, rfl⟩ := List.head?_eq_some_iff.mp hhead
          exact ⟨_, rfl, .inr ⟨['\r', '\n'], rest, .inr rfl, rfl⟩⟩

/-- A text on one line is the first row wherever a row ends behind it. -/
theorem firstRow_append (ha : OnOneLine a) (h : EndsRow b) : firstRow (a ++ b) = a := by
  have honeRow := rows_of_not_mem ha.1
  rcases h with rfl | ⟨lineEnd, rest, hend, rfl⟩
  · rw [List.append_nil, firstRow, honeRow]
    rfl
  · have hwhole : IsWholeBehind lineEnd a := fun _ hlast => ha.2 (List.mem_of_getLast? hlast)
    rw [firstRow, rows_append hend hwhole, honeRow]
    rfl

/-! ### Reading single lines -/

/-- What follows opening characters is found in front of any text. -/
theorem after?_append (wanted rest : List Char) : after? wanted (wanted ++ rest) = some rest := by
  induction wanted with
  | nil => rfl
  | cons w wanted ih => rw [List.cons_append, after?, if_pos rfl, ih]

/-- What follows a line end is found exactly where one stands. -/
theorem afterLineEnd?_eq_some_iff : afterLineEnd? cs = some rest ↔
    ∃ lineEnd, IsLineEnd lineEnd ∧ cs = lineEnd ++ rest := by
  constructor
  · intro h
    obtain ⟨lineEnd, hcs, hend⟩ := Section.eq_append_of_afterLineEnd? h
    exact ⟨lineEnd, hend, hcs⟩
  · rintro ⟨lineEnd, rfl | rfl, rfl⟩ <;> rfl

/-- A row ends in front of a text if it is empty or a line end is found there. -/
theorem endsRow_iff : EndsRow cs ↔ (cs.isEmpty || (afterLineEnd? cs).isSome) = true := by
  rw [Bool.or_eq_true, List.isEmpty_iff, Option.isSome_iff_exists]
  refine or_congr_right ?_
  simp only [afterLineEnd?_eq_some_iff]
  exact ⟨fun ⟨lineEnd, rest, h⟩ => ⟨rest, lineEnd, h⟩, fun ⟨rest, lineEnd, h⟩ => ⟨lineEnd, rest, h⟩⟩

/-- Blanks do not go on where a row ends. -/
theorem EndsRow.stops (h : EndsRow cs) : ∀ c ∈ cs.head?, isSpaceOrTab c = false := by
  rcases h with rfl | ⟨_, rest, rfl | rfl, rfl⟩
  · simp
  · simp only [List.singleton_append, List.head?_cons, Option.mem_some_iff, forall_eq']
    decide
  · simp only [List.cons_append, List.head?_cons, Option.mem_some_iff, forall_eq']
    decide

/-- A line is found exactly where it stands, with its line end. -/
theorem afterLine?_eq_some_iff {wanted : List Char} : afterLine? wanted cs = some rest ↔
    ∃ pad lineEnd, (∀ c ∈ pad, isSpaceOrTab c = true) ∧ IsLineEnd lineEnd ∧
      cs = wanted ++ (pad ++ (lineEnd ++ rest)) := by
  constructor
  · intro h
    obtain ⟨tail, hwanted, hend⟩ := Option.bind_eq_some_iff.mp h
    obtain ⟨lineEnd, hlineEnd, htail⟩ := afterLineEnd?_eq_some_iff.mp hend
    refine ⟨tail.takeWhile isSpaceOrTab, lineEnd, fun c hc => List.mem_takeWhile_imp hc, hlineEnd, ?_⟩
    rw [Section.eq_append_of_after? hwanted, ← htail, List.takeWhile_append_dropWhile]
  · rintro ⟨pad, lineEnd, hpad, hend, rfl⟩
    have hrow : EndsRow (lineEnd ++ rest) := .inr ⟨lineEnd, rest, hend, rfl⟩
    rw [afterLine?, after?_append, Option.bind_some, dropWhile_append_of_stops hpad hrow.stops,
      afterLineEnd?_eq_some_iff]
    exact ⟨lineEnd, hend, rfl⟩

/-- A marker row is on one line. -/
theorem IsMarkerRow.onOneLine (h : IsMarkerRow row) : OnOneLine row := by
  obtain ⟨pad, rfl, hpad⟩ := h
  simp only [OnOneLine, List.mem_append, not_or]
  exact ⟨⟨by decide, fun hmem => absurd (hpad _ hmem) (by decide)⟩,
    ⟨by decide, fun hmem => absurd (hpad _ hmem) (by decide)⟩⟩

/-- The first row of a text is a marker row exactly if the text starts with three dashes, and behind
the blanks that follow them the row ends. -/
theorem isMarkerRow_firstRow_iff : IsMarkerRow (firstRow cs) ↔
    ∃ rest, after? marker cs = some rest ∧ EndsRow (rest.dropWhile isSpaceOrTab) := by
  constructor
  · rintro ⟨pad, hrow, hpad⟩
    obtain ⟨tail, hcs, htail⟩ := exists_eq_firstRow_append cs
    rw [hrow, List.append_assoc] at hcs
    refine ⟨pad ++ tail, by rw [hcs, after?_append], ?_⟩
    rwa [dropWhile_append_of_stops hpad htail.stops]
  · rintro ⟨rest, hmarker, htail⟩
    have hpad : ∀ c ∈ rest.takeWhile isSpaceOrTab, isSpaceOrTab c = true :=
      fun c hc => List.mem_takeWhile_imp hc
    have hmarkerRow : IsMarkerRow (marker ++ rest.takeWhile isSpaceOrTab) := ⟨_, rfl, hpad⟩
    rwa [Section.eq_append_of_after? hmarker,
      ← List.takeWhile_append_dropWhile (p := isSpaceOrTab) (l := rest), ← List.append_assoc,
      firstRow_append hmarkerRow.onOneLine htail]

/-- **What starts a closing line**: a line end in front of a text whose first row is a marker row. -/
theorem startsClosing_iff : startsClosing cs = true ↔
    ∃ lineEnd rest, IsLineEnd lineEnd ∧ cs = lineEnd ++ rest ∧ IsMarkerRow (firstRow rest) := by
  have hclosing : startsClosing cs = true ↔ ∃ rest, (afterLineEnd? cs).bind (after? marker) =
      some rest ∧ EndsRow (rest.dropWhile isSpaceOrTab) := by
    rw [startsClosing]
    cases (afterLineEnd? cs).bind (after? marker) with
    | none => simp
    | some rest => simp [endsRow_iff]
  rw [hclosing]
  constructor
  · rintro ⟨tail, hfound, hrow⟩
    obtain ⟨rest, hend, hmarker⟩ := Option.bind_eq_some_iff.mp hfound
    obtain ⟨lineEnd, hlineEnd, hcs⟩ := afterLineEnd?_eq_some_iff.mp hend
    exact ⟨lineEnd, rest, hlineEnd, hcs, isMarkerRow_firstRow_iff.mpr ⟨tail, hmarker, hrow⟩⟩
  · rintro ⟨lineEnd, rest, hlineEnd, hcs, hrow⟩
    obtain ⟨tail, hmarker, htail⟩ := isMarkerRow_firstRow_iff.mp hrow
    have hend := afterLineEnd?_eq_some_iff.mpr ⟨lineEnd, hlineEnd, hcs⟩
    exact ⟨tail, by rw [hend, Option.bind_some, hmarker], htail⟩

/-! ### Reading up to a closing line -/

/-- A closing line stands behind a block: behind the block a line end, and there a text whose first
row is a marker row. -/
def ClosedBehind (block cs : List Char) : Prop :=
  ∃ lineEnd rest, IsLineEnd lineEnd ∧ IsWholeBehind lineEnd block ∧
    cs = block ++ (lineEnd ++ rest) ∧ IsMarkerRow (firstRow rest)

/-- The first row of a block is that of every text in which a row ends behind the block. -/
theorem firstRow_append_lineEnd (hend : IsLineEnd lineEnd) (hwhole : IsWholeBehind lineEnd a)
    (b : List Char) : firstRow (a ++ (lineEnd ++ b)) = firstRow a := by
  rw [firstRow, rows_append hend hwhole, rows_eq_cons a]
  rfl

/-- A carriage return belongs to a block if the line feed behind it does. -/
theorem IsWholeBehind.cons (h : IsWholeBehind lineEnd block)
    (hc : block = [] → lineEnd = ['\n'] → c ≠ '\r') : IsWholeBehind lineEnd (c :: block) := by
  intro hend
  cases block with
  | nil => simpa using hc rfl hend
  | cons d block => simpa [List.getLast?_cons] using h hend

/-- A line end that a block with a line end behind it starts with is its own. -/
theorem IsWholeBehind.exists_eq_append {lineEnd' rest' : List Char}
    (hwhole : IsWholeBehind lineEnd (c :: block)) (hend : IsLineEnd lineEnd)
    (hend' : IsLineEnd lineEnd') (h : c :: (block ++ (lineEnd ++ rest)) = lineEnd' ++ rest') :
    ∃ b, c :: block = lineEnd' ++ b ∧ rest' = b ++ (lineEnd ++ rest) := by
  rcases hend' with rfl | rfl
  · obtain ⟨rfl, hrest⟩ := List.cons.inj h
    exact ⟨block, rfl, hrest.symm⟩
  · obtain ⟨rfl, hblock⟩ := List.cons.inj h
    cases block with
    | nil =>
        rcases hend with rfl | rfl
        · exact absurd rfl (hwhole rfl)
        · exact absurd (List.cons.inj hblock).1 (by decide)
    | cons d block =>
        obtain ⟨rfl, hrest⟩ := List.cons.inj hblock
        exact ⟨block, rfl, hrest.symm⟩

/-- What is read up to a closing line has one behind it, and no row of it but the first is a marker
row. -/
theorem untilClosing?_sound (h : untilClosing? cs = some block) :
    ClosedBehind block cs ∧ ∀ row ∈ (rows block).tail, ¬ IsMarkerRow row := by
  induction cs generalizing block with
  | nil => cases h
  | cons c cs ih =>
      rw [untilClosing?] at h
      split at h
      · next hstarts =>
          obtain rfl := Option.some.inj h
          obtain ⟨lineEnd, rest, hend, hcs, hrow⟩ := startsClosing_iff.mp hstarts
          exact ⟨⟨lineEnd, rest, hend, fun _ => by simp, hcs, hrow⟩, by simp [rows]⟩
      · next hstarts =>
          obtain ⟨block, hblock, rfl⟩ := Option.map_eq_some_iff.mp h
          obtain ⟨⟨lineEnd, rest, hend, hwhole, rfl, hrow⟩, hrows⟩ := ih hblock
          refine ⟨⟨lineEnd, rest, hend, hwhole.cons ?_, rfl, hrow⟩, ?_⟩
          · rintro rfl rfl rfl
            exact hstarts (startsClosing_iff.mpr ⟨['\r', '\n'], rest, .inr rfl, rfl, hrow⟩)
          · rw [tail_rows_cons]
            split
            · next hc =>
                rw [rows_eq_cons, ← firstRow_append_lineEnd hend hwhole rest]
                refine List.forall_mem_cons.mpr ⟨fun hfirst => ?_, hrows⟩
                exact hstarts (startsClosing_iff.mpr ⟨['\n'], _, .inl rfl, by rw [hc]; rfl, hfirst⟩)
            · exact hrows

/-- Such a block is read in front of a closing line. -/
theorem untilClosing?_append (hend : IsLineEnd lineEnd) (hwhole : IsWholeBehind lineEnd block)
    (hrow : IsMarkerRow (firstRow rest)) (hrows : ∀ row ∈ (rows block).tail, ¬ IsMarkerRow row) :
    untilClosing? (block ++ (lineEnd ++ rest)) = some block := by
  induction block with
  | nil =>
      have hstarts : startsClosing (lineEnd ++ rest) = true :=
        startsClosing_iff.mpr ⟨lineEnd, rest, hend, rfl, hrow⟩
      rcases hend with rfl | rfl <;> exact if_pos hstarts
  | cons c block ih =>
      have hquiet : ¬ startsClosing (c :: (block ++ (lineEnd ++ rest))) = true := by
        intro hstarts
        obtain ⟨lineEnd', rest', hend', hcut, hrow'⟩ := startsClosing_iff.mp hstarts
        obtain ⟨b, hb, rfl⟩ := hwhole.exists_eq_append hend hend' hcut
        rw [hb] at hwhole hrows
        rw [firstRow_append_lineEnd hend hwhole.of_append] at hrow'
        refine hrows (firstRow b) ?_ hrow'
        rw [rows_lineEnd hend', List.tail_cons, rows_eq_cons b]
        exact List.mem_cons_self
      rw [List.cons_append, untilClosing?, if_neg hquiet, ih hwhole.of_cons ?_, Option.map_some]
      intro row hmem
      refine hrows row ?_
      rw [tail_rows_cons]
      split
      · exact List.mem_of_mem_tail hmem
      · exact hmem

/-- **What is read up to a closing line**: the block in front of it, if no row of the block but the
first is a marker row. -/
theorem untilClosing?_eq_some_iff : untilClosing? cs = some block ↔
    ClosedBehind block cs ∧ ∀ row ∈ (rows block).tail, ¬ IsMarkerRow row := by
  refine ⟨untilClosing?_sound, ?_⟩
  rintro ⟨⟨lineEnd, rest, hend, hwhole, rfl, hrow⟩, hrows⟩
  exact untilClosing?_append hend hwhole hrow hrows

/-! ### The opening line -/

/-- The opening of a comment on a line of its own, with the blanks behind it. -/
def IsCommentOpening (comment : List Char) : Prop :=
  ∃ pad lineEnd blanks, (∀ c ∈ pad, isSpaceOrTab c = true) ∧ IsLineEnd lineEnd ∧
    (∀ c ∈ blanks, isBlank c = true) ∧ comment = commentStart ++ (pad ++ (lineEnd ++ blanks))

/-- What a document with a front matter opens with: blanks, perhaps the opening of a comment, and a
line of three dashes with its line end. -/
def IsOpening (opening : List Char) : Prop :=
  ∃ blanks comment pad lineEnd, (∀ c ∈ blanks, isBlank c = true) ∧
    (comment = [] ∨ IsCommentOpening comment) ∧ (∀ c ∈ pad, isSpaceOrTab c = true) ∧
    IsLineEnd lineEnd ∧ opening = blanks ++ (comment ++ (marker ++ (pad ++ lineEnd)))

/-- What is passed over is the opening of a comment, or nothing. -/
theorem exists_eq_append_skipComment (cs : List Char) : ∃ comment,
    (comment = [] ∨ IsCommentOpening comment) ∧ cs = comment ++ skipComment cs := by
  rw [skipComment]
  split
  · next rest h =>
      obtain ⟨pad, lineEnd, hpad, hend, hcs⟩ := afterLine?_eq_some_iff.mp h
      refine ⟨_, .inr ⟨pad, lineEnd, rest.takeWhile isBlank, hpad, hend,
        fun c hc => List.mem_takeWhile_imp hc, rfl⟩, ?_⟩
      simp only [List.append_assoc, List.takeWhile_append_dropWhile]
      exact hcs
  · exact ⟨[], .inl rfl, rfl⟩

/-- The opening of a comment is passed over in front of three dashes. -/
theorem skipComment_append {comment : List Char}
    (hcomment : comment = [] ∨ IsCommentOpening comment) (rest : List Char) :
    skipComment (comment ++ (marker ++ rest)) = marker ++ rest := by
  rcases hcomment with rfl | ⟨pad, lineEnd, blanks, hpad, hend, hblanks, rfl⟩
  · rfl
  · have hline : afterLine? commentStart (commentStart ++ (pad ++ (lineEnd ++ blanks)) ++
        (marker ++ rest)) = some (blanks ++ (marker ++ rest)) :=
      afterLine?_eq_some_iff.mpr ⟨pad, lineEnd, hpad, hend, by simp⟩
    rw [skipComment, hline]
    exact dropWhile_append_cons hblanks (by decide)

/-- Neither the opening of a comment nor three dashes start with a blank. -/
theorem stops_blanks {comment : List Char} (hcomment : comment = [] ∨ IsCommentOpening comment)
    (rest : List Char) : ∀ c ∈ (comment ++ (marker ++ rest)).head?, isBlank c = false := by
  have hdash : isBlank '-' = false := by decide
  have hangle : isBlank '<' = false := by decide
  rcases hcomment with rfl | ⟨pad, lineEnd, blanks, -, -, -, rfl⟩
  · simpa [marker] using hdash
  · simpa [commentStart] using hangle

/-- **What stands behind the opening of a document** is found exactly where a document has one. -/
theorem behindOpening?_eq_some_iff :
    afterLine? marker (skipComment (cs.dropWhile isBlank)) = some rest ↔
      ∃ opening, IsOpening opening ∧ cs = opening ++ rest := by
  constructor
  · intro h
    obtain ⟨pad, lineEnd, hpad, hend, hskip⟩ := afterLine?_eq_some_iff.mp h
    obtain ⟨comment, hcomment, hdrop⟩ := exists_eq_append_skipComment (cs.dropWhile isBlank)
    refine ⟨_, ⟨cs.takeWhile isBlank, comment, pad, lineEnd,
      fun c hc => List.mem_takeWhile_imp hc, hcomment, hpad, hend, rfl⟩, ?_⟩
    calc cs = cs.takeWhile isBlank ++ (comment ++ skipComment (cs.dropWhile isBlank)) := by
          rw [← hdrop, List.takeWhile_append_dropWhile]
      _ = _ := by rw [hskip]; simp only [List.append_assoc]
  · rintro ⟨opening, ⟨blanks, comment, pad, lineEnd, hblanks, hcomment, hpad, hend, rfl⟩, rfl⟩
    have htext : blanks ++ (comment ++ (marker ++ (pad ++ lineEnd))) ++ rest =
        blanks ++ (comment ++ (marker ++ (pad ++ (lineEnd ++ rest)))) := by
      simp only [List.append_assoc]
    rw [htext, dropWhile_append_of_stops hblanks (stops_blanks hcomment _),
      skipComment_append hcomment]
    exact afterLine?_eq_some_iff.mpr ⟨pad, lineEnd, hpad, hend, rfl⟩

/-! ### The block of a document -/

/-- The text strictly between the opening of a document and the first marker row behind it, without
the line end in front of that row. -/
def IsBetween (block rest : List Char) : Prop :=
  block = [] ∧ IsMarkerRow (firstRow rest) ∨
    ClosedBehind block rest ∧ ∀ row ∈ rows block, ¬ IsMarkerRow row

/-- A block starts with the row that stands right behind the opening. -/
theorem ClosedBehind.firstRow_eq (h : ClosedBehind block rest) : firstRow rest = firstRow block := by
  obtain ⟨lineEnd, behind, hend, hwhole, rfl, -⟩ := h
  exact firstRow_append_lineEnd hend hwhole behind

/-- No row of a block is a marker row if neither the first one nor another one is. -/
theorem forall_mem_rows : (∀ row ∈ rows block, ¬ IsMarkerRow row) ↔
    ¬ IsMarkerRow (firstRow block) ∧ ∀ row ∈ (rows block).tail, ¬ IsMarkerRow row := by
  rw [rows_eq_cons, List.forall_mem_cons, List.tail_cons]

/-- Where a block is read, it is the text up to the first marker row exactly if that does not stand
right behind the opening. -/
theorem isBetween_iff (h : untilClosing? rest = some block) :
    IsBetween block rest ↔ ¬ IsMarkerRow (firstRow rest) := by
  obtain ⟨hclosed, hrows⟩ := untilClosing?_sound h
  rw [IsBetween, forall_mem_rows, hclosed.firstRow_eq]
  constructor
  · rintro (⟨rfl, -⟩ | ⟨-, hfirst, -⟩)
    · decide
    · exact hfirst
  · exact fun hfirst => .inr ⟨hclosed, hfirst, hrows⟩

/-- Where no marker row stands right behind the opening, exactly the text up to the first marker row
is read. -/
theorem untilClosing?_eq_some_iff_isBetween (hfirst : ¬ IsMarkerRow (firstRow rest)) :
    untilClosing? rest = some block ↔ IsBetween block rest := by
  refine ⟨fun h => (isBetween_iff h).mpr hfirst, ?_⟩
  rintro (⟨-, hmarker⟩ | ⟨hclosed, hrows⟩)
  · exact absurd hmarker hfirst
  · exact untilClosing?_eq_some_iff.mpr ⟨hclosed, (forall_mem_rows.mp hrows).2⟩

/-- The block of a document is what is read behind its opening. -/
theorem find?_eq_some_iff {text block : String} (hopening : IsOpening opening)
    (htext : text.toList = opening ++ rest) :
    find? text = some block ↔ untilClosing? rest = some block.toList := by
  rw [find?, findChars?, behindOpening?_eq_some_iff.mpr ⟨opening, hopening, htext⟩,
    Option.bind_some, Option.map_eq_some_iff]
  constructor
  · rintro ⟨cs, hcs, rfl⟩
    rw [hcs, String.toList_ofList]
  · exact fun h => ⟨_, h, String.ofList_toList⟩

/-- A document in which a block is found has an opening. -/
theorem exists_opening_of_find? {text block : String} (h : find? text = some block) :
    ∃ opening rest, IsOpening opening ∧ text.toList = opening ++ rest := by
  obtain ⟨cs, hcs, -⟩ := Option.map_eq_some_iff.mp h
  obtain ⟨rest, hrest, -⟩ := Option.bind_eq_some_iff.mp hcs
  obtain ⟨opening, hopening⟩ := behindOpening?_eq_some_iff.mp hrest
  exact ⟨opening, rest, hopening⟩

/-- A document with an opening is no blank text. -/
theorem IsOpening.isBlankText_eq_false {text : String} (h : IsOpening opening)
    (htext : text.toList = opening ++ rest) : RuleDocument.isBlankText text = false := by
  obtain ⟨blanks, comment, pad, lineEnd, -, -, -, -, rfl⟩ := h
  rw [RuleDocument.isBlankText, List.all_eq_false]
  exact ⟨'-', by simp [htext, marker], by decide⟩

/-- The rules of a document depend on its block only. -/
theorem parse_eq_of_find?_eq {text text' block : String} (h : find? text = some block)
    (h' : find? text' = some block) (source : String) :
    RuleDocument.parse text' source true = RuleDocument.parse text source true := by
  obtain ⟨opening, rest, hopening, htext⟩ := exists_opening_of_find? h
  obtain ⟨opening', rest', hopening', htext'⟩ := exists_opening_of_find? h'
  have hload : RuleDocument.loadValue text' source true = RuleDocument.loadValue text source true := by
    simp only [RuleDocument.loadValue, validation?, h, h', if_true]
  simp only [RuleDocument.parse, hopening.isBlankText_eq_false htext,
    hopening'.isBlankText_eq_false htext', hload]

/-- What stands behind the closing line of a block does not matter. -/
theorem untilClosing?_after {closing after after' : List Char} (hend : IsLineEnd lineEnd)
    (hwhole : IsWholeBehind lineEnd block) (hclosing : IsMarkerRow closing)
    (hafter' : EndsRow after')
    (h : untilClosing? (block ++ (lineEnd ++ (closing ++ after))) = some block) :
    untilClosing? (block ++ (lineEnd ++ (closing ++ after'))) = some block := by
  have hrow : IsMarkerRow (firstRow (closing ++ after')) := by
    rwa [firstRow_append hclosing.onOneLine hafter']
  exact untilClosing?_append hend hwhole hrow (untilClosing?_sound h).2

/-- **Where the block of a front matter ends.** Behind the opening of a document a block is read up to
a closing line, and no row of it but the first is a marker row. If no marker row stands right behind
the opening, then exactly the text up to the first marker row is read; otherwise something else is
read, if anything, and this has a marker row. What stands behind the closing line does not matter. -/
theorem find?_block (text : String) :
    (∀ block, find? text = some block →
      ∃ opening rest, IsOpening opening ∧ text.toList = opening ++ rest) ∧
    ∀ opening rest, IsOpening opening → text.toList = opening ++ rest →
      (∀ block, find? text = some block ↔ ClosedBehind block.toList rest ∧
        ∀ row ∈ (rows block.toList).tail, ¬ IsMarkerRow row) ∧
      (¬ IsMarkerRow (firstRow rest) →
        ∀ block, find? text = some block ↔ IsBetween block.toList rest) ∧
      (∀ block, find? text = some block →
        (IsBetween block.toList rest ↔ ¬ IsMarkerRow (firstRow rest)) ∧
        ((∀ row ∈ rows block.toList, ¬ IsMarkerRow row) ↔ ¬ IsMarkerRow (firstRow rest))) ∧
      ∀ (block : String) (lineEnd closing after after' : List Char), find? text = some block →
        IsLineEnd lineEnd → IsWholeBehind lineEnd block.toList → IsMarkerRow closing →
        EndsRow after' → rest = block.toList ++ (lineEnd ++ (closing ++ after)) →
        ∀ source, RuleDocument.parse (String.ofList (opening ++
            (block.toList ++ (lineEnd ++ (closing ++ after'))))) source true =
          RuleDocument.parse text source true := by
  refine ⟨fun block h => exists_opening_of_find? h, fun opening rest hopening htext => ?_⟩
  have hfind (block : String) : find? text = some block ↔ untilClosing? rest = some block.toList :=
    find?_eq_some_iff hopening htext
  refine ⟨fun block => (hfind block).trans untilClosing?_eq_some_iff,
    fun hfirst block => (hfind block).trans (untilClosing?_eq_some_iff_isBetween hfirst),
    fun block h => ?_, ?_⟩
  · have hread := (hfind block).mp h
    obtain ⟨hclosed, hrows⟩ := untilClosing?_sound hread
    refine ⟨isBetween_iff hread, ?_⟩
    rw [forall_mem_rows, hclosed.firstRow_eq]
    exact and_iff_left hrows
  · rintro block lineEnd closing after after' h hend hwhole hclosing hafter' rfl source
    refine parse_eq_of_find?_eq h ?_ source
    rw [find?_eq_some_iff hopening String.toList_ofList]
    exact untilClosing?_after hend hwhole hclosing hafter' ((hfind block).mp h)

/-- A document in a comment, with blanks behind its dashes, and with a rule below its prose. -/
def commentedDocument : String := "<!-- \n\n---\r\nvalidation: {}\n\n---\t\r\nprose\n---\n"

/-- Its block ends at the first marker row, and the prose is not read. -/
theorem find?_block_commented :
    find? commentedDocument = some "validation: {}\n" ∧
    ∀ source, RuleDocument.parse "<!-- \n\n---\r\nvalidation: {}\n\n---\t" source true =
      RuleDocument.parse commentedDocument source true := by
  have hopening : IsOpening "<!-- \n\n---\r\n".toList :=
    ⟨[], "<!-- \n\n".toList, [], ['\r', '\n'], by simp,
      .inr ⟨[' '], ['\n'], ['\n'], forall_mem_of_all (by decide), .inl rfl,
        forall_mem_of_all (by decide), by decide⟩, by simp, .inr rfl, by decide⟩
  have hrest : commentedDocument.toList = "<!-- \n\n---\r\n".toList ++
      ("validation: {}\n".toList ++ (['\n'] ++ ("---\t".toList ++ "\r\nprose\n---\n".toList))) := by
    decide
  have hmarker : IsMarkerRow "---\t".toList := by decide
  have hclosed : ClosedBehind "validation: {}\n".toList
      ("validation: {}\n".toList ++ (['\n'] ++ ("---\t".toList ++ "\r\nprose\n---\n".toList))) :=
    ⟨['\n'], _, .inl rfl, fun _ => by decide, rfl, by decide⟩
  obtain ⟨-, hbehind⟩ := find?_block commentedDocument
  obtain ⟨-, hfirst, -, hafter⟩ := hbehind _ _ hopening hrest
  have hfound : find? commentedDocument = some "validation: {}\n" :=
    (hfirst (by decide) _).mpr (.inr ⟨hclosed, by decide⟩)
  have hshort : String.ofList ("<!-- \n\n---\r\n".toList ++ ("validation: {}\n".toList ++
      (['\n'] ++ ("---\t".toList ++ [])))) = "<!-- \n\n---\r\nvalidation: {}\n\n---\t" := by
    decide +kernel
  refine ⟨hfound, fun source => ?_⟩
  rw [← hshort]
  exact hafter "validation: {}\n" ['\n'] "---\t".toList "\r\nprose\n---\n".toList [] hfound
    (.inl rfl) (fun _ => by decide) hmarker (.inl rfl) rfl source

/-- A document in which a marker row stands right behind the opening. -/
def emptyDocument : String := "---\n---\nvalidation:\n  require_labels: true\n---\n"

/-- Its block is empty, but what is read is the text behind it. -/
theorem not_forall_find?_isBetween :
    ¬ ∀ (text block : String) (opening rest : List Char), IsOpening opening →
      text.toList = opening ++ rest → find? text = some block →
        IsBetween block.toList rest ∧ ∀ row ∈ rows block.toList, ¬ IsMarkerRow row := by
  intro h
  have hopening : IsOpening "---\n".toList :=
    ⟨[], [], [], ['\n'], by simp, .inl rfl, by simp, .inl rfl, by decide⟩
  obtain ⟨-, hrows⟩ := h emptyDocument "---\nvalidation:\n  require_labels: true" "---\n".toList
    "---\nvalidation:\n  require_labels: true\n---\n".toList hopening (by decide)
    (by decide +kernel)
  exact hrows "---".toList (by decide) (by decide)

end MergeGate.FrontMatter
