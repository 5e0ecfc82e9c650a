import MergeGate.Check.IssueReference
import MergeGate.Markdown.FrontMatter
import MergeGate.Proofs.CheckboxLine
import MergeGate.Proofs.HeadingLine
import MergeGate.Proofs.LineEnds

/-!
# What is read from a description

Four ways to read a description treat a carriage return each in their own way: the front matter is
found between marker lines, a section behind its heading line, a checkbox is a line, and a reference
to an issue may be split by any blanks. This module says that all four find the same in both
spellings of a description: a text that is cut out of it is the same up to its own spelling, and
anything else is the same.

The title of a section is on one line. With a line break of its own it would be found in one
spelling only.

## Main results

* `FrontMatter.find?_inCrlf`: the block of the front matter.
* `Section.content_inCrlf`: the content of a section.
* `Checkbox.ofChars_crlf`: the checkboxes.
* `IssueReference.findings_inCrlf`: whether a reference to an issue is missing.
-/

namespace MergeGate

open Text

variable {cs title : List Char}

/-! ### Front matter -/

namespace FrontMatter

/-- A marker line may be looked for. -/
theorem ignoresLineEnds_afterLine? {wanted : List Char} (hwanted : OnOneLine wanted) :
    IgnoresLineEnds (afterLine? wanted) :=
  (IgnoresLineEnds.after? hwanted).bind
    ((IgnoresLineEnds.dropWhile (by decide)).bind .afterLineEnd?)

/-- The opening of a comment is passed over in both spellings. -/
theorem skipComment_crlf (hcs : '\r' ∉ cs) : skipComment (crlf cs) = crlf (skipComment cs) := by
  rw [skipComment, skipComment, (ignoresLineEnds_afterLine? (by decide)).crlf hcs]
  cases afterLine? commentStart cs with
  | none => rfl
  | some rest => exact dropWhile_crlf (by decide) rest

/-- What stands behind the opening of a comment is an end of the text. -/
theorem skipComment_suffix (cs : List Char) : skipComment cs <:+ cs := by
  rw [skipComment]
  split
  · next h =>
      exact (List.dropWhile_suffix isBlank).trans
        ((ignoresLineEnds_afterLine? (by decide)).suffix h)
  · exact List.suffix_rfl

/-- Both spellings of a line break and a closing line start one. -/
theorem startsClosing_crlf (hcs : '\r' ∉ cs) : startsClosing (crlf cs) = startsClosing cs := by
  have hmarker : IgnoresLineEnds fun cs => (afterLineEnd? cs).bind (after? marker) :=
    IgnoresLineEnds.afterLineEnd?.bind (.after? (by decide))
  rw [startsClosing, startsClosing, hmarker.crlf hcs]
  cases hrest : (afterLineEnd? cs).bind (after? marker) with
  | none => rfl
  | some rest =>
      have htail : '\r' ∉ rest.dropWhile isSpaceOrTab := fun hmem =>
        hmarker.not_mem hcs hrest ((List.dropWhile_suffix isSpaceOrTab).subset hmem)
      have hspaces := dropWhile_crlf (p := isSpaceOrTab) (by decide) rest
      simp only [Option.map_some, hspaces, IgnoresLineEnds.afterLineEnd?.crlf htail,
        Option.isSome_map, isEmpty_crlf]

/-- The text before the closing line is the same up to its spelling. -/
theorem untilClosing?_crlf (hcs : '\r' ∉ cs) :
    untilClosing? (crlf cs) = (untilClosing? cs).map crlf := by
  induction cs with
  | nil => rfl
  | cons c cs ih =>
      have hclosing := startsClosing_crlf hcs
      have hrest := ih (List.not_mem_of_not_mem_cons hcs)
      by_cases hc : c = '\n'
      · subst hc
        rw [crlf_lineFeed] at hclosing ⊢
        rw [untilClosing?, hclosing]
        cases hstarts : startsClosing ('\n' :: cs) with
        | true => simp [untilClosing?, hstarts]
        | false =>
            -- Behind the carriage return stands the line feed, and with it the same line break.
            have hbehind : startsClosing ('\n' :: crlf cs) = false := by
              rw [← hstarts, ← hclosing]
              rfl
            simp [untilClosing?, hstarts, hbehind, hrest, Function.comp_def]
      · rw [crlf_cons_of_ne hc] at hclosing ⊢
        rw [untilClosing?, untilClosing?, hclosing, hrest]
        split
        · rfl
        · simp [crlf_cons_of_ne hc, Function.comp_def]

/-- **The block of the front matter is found in both spellings**, up to its own spelling. -/
theorem findChars?_crlf (hcs : '\r' ∉ cs) :
    findChars? (crlf cs) = (findChars? cs).map crlf := by
  have hopen : IgnoresLineEnds (afterLine? marker) := ignoresLineEnds_afterLine? (by decide)
  have hbody : '\r' ∉ cs.dropWhile isBlank := fun hmem =>
    hcs ((List.dropWhile_suffix isBlank).subset hmem)
  have hskip : '\r' ∉ skipComment (cs.dropWhile isBlank) := fun hmem =>
    hbody ((skipComment_suffix _).subset hmem)
  rw [findChars?, dropWhile_crlf (by decide), skipComment_crlf hbody, hopen.crlf hskip, findChars?]
  cases hblock : afterLine? marker (skipComment (cs.dropWhile isBlank)) with
  | none => rfl
  | some rest => exact untilClosing?_crlf (hopen.not_mem hskip hblock)

/-- The block as a string. -/
theorem find?_inCrlf {text : String} (htext : '\r' ∉ text.toList) :
    find? (inCrlf text) = (find? text).map inCrlf := by
  rw [find?, toList_inCrlf, findChars?_crlf htext, find?, Option.map_map, Option.map_map]
  simp only [Function.comp_def, inCrlf_ofList]

end FrontMatter

/-! ### Words -/

namespace Text

/-- No text with a control character in front starts with words that do not have that character. -/
theorem afterIgnoringCase?_of_control {words : List Char} {d : Char}
    (hd : 0 < d.toNat ∧ d.toNat < 32) (hne : words ≠ []) (hmem : d ∉ words) (rest : List Char) :
    afterIgnoringCase? words (d :: rest) = none := by
  obtain ⟨w, tail, rfl⟩ := List.exists_cons_of_ne_nil hne
  rw [afterIgnoringCase?, if_neg]
  intro hmatch
  have hletters : 0 < d.toNat ∧ d.toNat < 65 := ⟨hd.1, Nat.lt_trans hd.2 (by decide)⟩
  exact hmem (List.mem_cons.mpr (.inl (eq_of_matches_of_lt_letters hletters hmatch).symm))

/-- Words on one line may be looked for when case is ignored. -/
theorem ignoresLineEnds_afterIgnoringCase? {words : List Char} (hwords : OnOneLine words) :
    IgnoresLineEnds (afterIgnoringCase? words) where
  suffix {cs rest} h := by
    obtain ⟨others, rfl, -⟩ := eq_append_of_afterIgnoringCase? h
    exact List.suffix_append others rest
  crlf {cs} hcs := by
    induction words generalizing cs with
    | nil => rfl
    | cons w words ih =>
        have hnone {d : Char} (hd : 0 < d.toNat ∧ d.toNat < 32) (hmem : d ∉ w :: words)
            (rest : List Char) : afterIgnoringCase? (w :: words) (d :: rest) = none :=
          afterIgnoringCase?_of_control hd (List.cons_ne_nil w words) hmem rest
        cases cs with
        | nil => rfl
        | cons c cs =>
            by_cases hc : c = '\n'
            · subst hc
              rw [crlf_lineFeed, hnone (by decide) hwords.2, hnone (by decide) hwords.1,
                Option.map_none]
            · simp only [OnOneLine, List.mem_cons, not_or] at hwords
              rw [crlf_cons_of_ne hc, afterIgnoringCase?, afterIgnoringCase?]
              split
              · exact ih ⟨hwords.1.2, hwords.2.2⟩ (List.not_mem_of_not_mem_cons hcs)
              · rfl

end Text

/-! ### Sections -/

namespace Section

variable (htitle : OnOneLine title)

/-- A heading starts with three number signs and no fourth one. -/
theorem startsHeading_eq (cs : List Char) :
    startsHeading cs =
      (after? ['#', '#', '#'] cs).any fun rest => !rest.head?.any (· == '#') := by
  unfold startsHeading
  split
  · next rest =>
      cases rest with
      | nil => rfl
      | cons c rest => simp [after?, bne]
  · next h =>
      cases hafter : after? ['#', '#', '#'] cs with
      | none => rfl
      | some rest => exact absurd (eq_append_of_after? hafter) (h rest)

/-- A heading starts in both spellings or in none. -/
theorem startsHeading_crlf (cs : List Char) : startsHeading (crlf cs) = startsHeading cs := by
  have hhead (rest : List Char) :
      (crlf rest).head?.any (· == '#') = rest.head?.any (· == '#') :=
    any_head?_crlf (by decide) rest
  rw [startsHeading_eq, startsHeading_eq, after?_crlf (by decide)]
  cases after? ['#', '#', '#'] cs with
  | none => rfl
  | some rest => simp only [Option.map_some, Option.any_some, hhead]

/-- The text before the next heading is the same up to its spelling. -/
theorem untilHeading_crlf (lineStart : Bool) (cs : List Char) :
    untilHeading lineStart (crlf cs) = crlf (untilHeading lineStart cs) := by
  induction cs generalizing lineStart with
  | nil => rfl
  | cons c cs ih =>
      by_cases hc : c = '\n'
      · subst hc
        simp [untilHeading, startsHeading, ih]
      · have hheading := startsHeading_crlf (c :: cs)
        rw [crlf_cons_of_ne hc] at hheading ⊢
        rw [untilHeading, untilHeading, hheading, ih]
        split
        · rfl
        · rw [crlf_cons_of_ne hc]

include htitle

/-- The rest of a heading line may be looked for, -/
theorem ignoresLineEnds_afterTitleLine? : IgnoresLineEnds (afterTitleLine? title) :=
  (ignoresLineEnds_afterIgnoringCase? htitle).bind
    ((IgnoresLineEnds.dropWhile (by decide)).bind .afterLineEnd?)

/-- with blanks in front of it, -/
theorem ignoresLineEnds_afterBlanksAndTitle? : IgnoresLineEnds (afterBlanksAndTitle? title) where
  suffix {cs rest} h := by
    obtain ⟨before, tail, rfl, -, htail⟩ := eq_append_of_afterBlanksAndTitle? h
    exact ((ignoresLineEnds_afterTitleLine? htitle).suffix htail).trans
      (List.suffix_append before tail)
  crlf {cs} hcs := by
    have hline := ignoresLineEnds_afterTitleLine? htitle
    induction cs with
    | nil => exact hline.crlf hcs
    | cons c cs ih =>
        have hhere := hline.crlf hcs
        have hrest := ih (List.not_mem_of_not_mem_cons hcs)
        by_cases hc : c = '\n'
        · subst hc
          exact hhere
        · rw [crlf_cons_of_ne hc] at hhere ⊢
          rw [afterBlanksAndTitle?, afterBlanksAndTitle?, hhere, hrest]
          split
          · rw [Option.map_or]
          · rfl

/-- and the whole of it. -/
theorem ignoresLineEnds_afterHeading? : IgnoresLineEnds (afterHeading? title) :=
  (IgnoresLineEnds.after? (by decide)).bind (ignoresLineEnds_afterBlanksAndTitle? htitle)

/-- The first heading line is found in both spellings. -/
theorem afterFirstHeading?_crlf (lineStart : Bool) (hcs : '\r' ∉ cs) :
    afterFirstHeading? title lineStart (crlf cs) =
      (afterFirstHeading? title lineStart cs).map crlf := by
  induction cs generalizing lineStart with
  | nil => rfl
  | cons c cs ih =>
      have hhere := (ignoresLineEnds_afterHeading? htitle).crlf hcs
      have hrest (ls : Bool) := ih ls (List.not_mem_of_not_mem_cons hcs)
      by_cases hc : c = '\n'
      · subst hc
        have hnone (d : Char) (rest : List Char) (hd : d ≠ '#') :
            afterHeading? title (d :: rest) = none := by
          simp [afterHeading?, after?, Ne.symm hd]
        simp [afterFirstHeading?, hnone, hrest]
      · rw [crlf_cons_of_ne hc] at hhere ⊢
        rw [afterFirstHeading?, afterFirstHeading?, hhere, hrest]
        cases lineStart with
        | false => rfl
        | true => cases afterHeading? title (c :: cs) <;> rfl

/-- **The content of a section is the same up to its spelling.** -/
theorem contentChars_crlf (hcs : '\r' ∉ cs) :
    contentChars title (crlf cs) = crlf (contentChars title cs) := by
  rw [contentChars, contentChars, raw?, raw?, afterFirstHeading?_crlf htitle true hcs]
  cases afterFirstHeading? title true cs with
  | none => rfl
  | some rest => simp only [Option.map_some, untilHeading_crlf, trim_crlf]

end Section

/-- A section has the same content up to its spelling. -/
theorem Section.content_inCrlf {body title : String} (hbody : '\r' ∉ body.toList)
    (htitle : OnOneLine title.toList) :
    content (inCrlf body) title = inCrlf (content body title) := by
  rw [content, toList_inCrlf, contentChars_crlf htitle hbody, content, inCrlf_ofList]

/-- A title with a line break of its own is found in one spelling only. -/
example : Section.content "### a\nb\nc" "a\nb" = "c" ∧
    Section.content (inCrlf "### a\nb\nc") "a\nb" = "" := by decide

/-! ### Checkboxes -/

namespace Checkbox

/-- A text has the same checkboxes as the text that starts with the same part of a line and goes on
in the other spelling. -/
theorem ofChars_append_crlf {line : List Char} (hline : '\n' ∉ line) (cs : List Char) :
    ofChars (line ++ crlf cs) = ofChars (line ++ cs) := by
  induction cs generalizing line with
  | nil => rfl
  | cons c cs ih =>
      by_cases hc : c = '\n'
      · subst hc
        have hended : ofChars (line ++ ['\r']) = ofChars line := by
          have hline' : '\n' ∉ line ++ ['\r'] := by simp [hline]
          rw [ofChars_of_not_mem hline, ofChars_of_not_mem hline', ofLine?_concat_carriageReturn]
        have hrest : ofChars (crlf cs) = ofChars cs := @ih [] (by simp)
        rw [crlf_lineFeed, List.append_cons, ofChars_append_cons, hended, hrest,
          ofChars_append_cons]
      · rw [crlf_cons_of_ne hc, List.append_cons, List.append_cons _ _ cs]
        exact ih (by simp [hline, Ne.symm hc])

/-- **Both spellings have the same checkboxes.** -/
theorem ofChars_crlf (cs : List Char) : ofChars (crlf cs) = ofChars cs :=
  @ofChars_append_crlf [] (by simp) cs

end Checkbox

/-! ### References to issues -/

namespace IssueReference

/-- Blanks around a colon, or blanks alone, may hold line ends of either spelling. -/
theorem ignoresLineEnds_afterSeparator? : IgnoresLineEnds afterSeparator? where
  suffix {cs rest} h := by
    unfold afterSeparator? at h
    have hdropped := List.dropWhile_suffix isBlank (l := cs)
    split at h
    · next tail htail =>
        rw [← Option.some.inj h]
        exact (List.dropWhile_suffix isBlank).trans
          ((List.suffix_cons ':' tail).trans (htail ▸ hdropped))
    · split at h
      · exact (Option.some.inj h) ▸ hdropped
      · cases h
  crlf {cs} _ := by
    unfold afterSeparator?
    rw [dropWhile_crlf (by decide), any_head?_crlf (by decide)]
    cases cs.dropWhile isBlank with
    | nil => simp
    | cons c rest =>
        by_cases hc : c = '\n'
        · subst hc
          simp
        · rw [crlf_cons_of_ne hc]
          by_cases hcolon : c = ':'
          · subst hcolon
            simp [dropWhile_crlf (p := isBlank) (by decide)]
          · simp [hcolon, crlf_cons_of_ne hc]

/-- A number has no line ends. -/
theorem number?_crlf (cs : List Char) : number? (crlf cs) = number? cs := by
  cases cs with
  | nil => rfl
  | cons c cs =>
      by_cases hc : c = '\n'
      · subst hc
        rfl
      · rw [crlf_cons_of_ne hc]
        by_cases hsign : c = '#'
        · subst hsign
          rw [number?, takeWhile_crlf (by decide) (by decide), number?]
        · simp [number?, hsign]

/-- The names of an owner and a repository have none either. -/
theorem qualified?_crlf (cs : List Char) : qualified? (crlf cs) = qualified? cs := by
  have htake (cs : List Char) : (crlf cs).takeWhile isNameChar = cs.takeWhile isNameChar :=
    takeWhile_crlf (by decide) (by decide) cs
  have hdrop (cs : List Char) : (crlf cs).dropWhile isNameChar = crlf (cs.dropWhile isNameChar) :=
    dropWhile_crlf (by decide) cs
  rw [qualified?, qualified?, htake, hdrop]
  cases cs.dropWhile isNameChar with
  | nil => rfl
  | cons c rest =>
      by_cases hc : c = '\n'
      · subst hc
        rfl
      · rw [crlf_cons_of_ne hc]
        by_cases hslash : c = '/'
        · subst hslash
          simp only [htake, hdrop, number?_crlf]
        · simp [hslash]

/-- A reference has no line ends. -/
theorem reference?_crlf (cs : List Char) : reference? (crlf cs) = reference? cs := by
  rw [reference?, reference?, number?_crlf, qualified?_crlf]

/-- No link starts with a line break. -/
theorem link?_of_control {d : Char} (hd : d = '\n' ∨ d = '\r') (rest : List Char) :
    link? (d :: rest) = none := by
  have hcontrol : 0 < d.toNat ∧ d.toNat < 32 := by rcases hd with rfl | rfl <;> decide
  have hkeywords : ∀ keyword ∈ keywords, keyword.toList ≠ [] ∧ OnOneLine keyword.toList := by
    decide
  refine List.findSome?_eq_none_iff.mpr fun keyword hmem => ?_
  obtain ⟨hne, hlf, hcr⟩ := hkeywords keyword hmem
  have hnot : d ∉ keyword.toList := by rcases hd with rfl | rfl <;> assumption
  rw [afterIgnoringCase?_of_control hcontrol hne hnot, Option.bind_none]

/-- Functions with the same values on a list find the same in it. -/
theorem findSome?_congr {α β : Type} {f g : α → Option β} {as : List α}
    (h : ∀ a ∈ as, f a = g a) : as.findSome? f = as.findSome? g := by
  induction as with
  | nil => rfl
  | cons a as ih =>
      obtain ⟨ha, hrest⟩ := List.forall_mem_cons.mp h
      rw [List.findSome?_cons, List.findSome?_cons, ha, ih hrest]

/-- Both spellings start with the same link. -/
theorem link?_crlf (hcs : '\r' ∉ cs) : link? (crlf cs) = link? cs := by
  have hkeywords : ∀ keyword ∈ keywords, OnOneLine keyword.toList := by decide
  refine findSome?_congr fun keyword hmem => ?_
  have hread := ((ignoresLineEnds_afterIgnoringCase? (hkeywords keyword hmem)).bind
    ignoresLineEnds_afterSeparator?).crlf hcs
  rw [← Option.bind_assoc, ← Option.bind_assoc, hread]
  cases (afterIgnoringCase? keyword.toList cs).bind afterSeparator? with
  | none => rfl
  | some rest => exact reference?_crlf rest

/-- **The first link is the same.** -/
theorem findFrom?_crlf (inWord : Bool) (hcs : '\r' ∉ cs) :
    findFrom? inWord (crlf cs) = findFrom? inWord cs := by
  induction cs generalizing inWord with
  | nil => rfl
  | cons c cs ih =>
      have hhere := link?_crlf hcs
      have hrest (w : Bool) := ih w (List.not_mem_of_not_mem_cons hcs)
      by_cases hc : c = '\n'
      · subst hc
        have hlf : isWord '\n' = false := by decide
        have hcr : isWord '\r' = false := by decide
        simp [findFrom?, link?_of_control, hlf, hcr, hrest]
      · rw [crlf_cons_of_ne hc] at hhere ⊢
        rw [findFrom?, findFrom?, hhere, hrest]

/-- A reference is missing in both spellings or in none. -/
theorem findings_inCrlf {body : String} (hbody : '\r' ∉ body.toList) :
    findings (inCrlf body) = findings body := by
  rw [findings, find?, toList_inCrlf, findFrom?_crlf false hbody, findings, find?]

end IssueReference

end MergeGate
