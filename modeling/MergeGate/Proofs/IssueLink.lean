import Mathlib.Data.List.Forall2
import Mathlib.Data.List.Infix
import MergeGate.Proofs.CharacterClass
import MergeGate.Proofs.HeadingLine
import MergeGate.Proofs.LineEndReading

/-!
# Links to issues

A description links an issue with a keyword, a separator and a reference. `Link` has these parts and
`Link.text` writes them down. What is found in a description is the reference of the first link in
it: the one that stands leftmost among all places behind which a link starts and in front of which no
word ends (`find?_eq_some_iff`).

At one place a link can be read in one way only, but for how many of the digits behind the number
sign belong to it (`Link.parts_unique`). The keyword goes on as long as there are letters, for behind
it stands a blank or a colon; the separator ends in front of a number sign or a character of a name;
a name ends in front of a slash or a number sign. So it does not matter in which order keywords are
tried, although some of them are the beginning of others.

Nothing that stands in front of a link or behind it can hide it. What is found may then be another
link, but something is found.

## Conventions

* `Link`, `Link.text`, `Link.reference`: the parts of a link, and how they are written.
* `Link.StandsIn`: a link stands in a text, between two others, and continues no word.
* `Link.IsFirstIn`: a link stands leftmost in a text, and no digit stands behind it.

## Main results

* `Link.parts_unique`: a link can be read in one way only.
* `link?_eq_some_iff`: **which texts start with a link.**
* `findFrom?_eq_some`, `isSome_findFrom?`: a search finds the leftmost link.
* `find?_leftmost`: **what is found in a description**, and that nothing around it hides a link.
-/

namespace MergeGate.IssueReference

open Text

/-- A character of the name of an owner or a repository: a letter, a digit of ASCII, an underscore, a
full stop or a hyphen. -/
def IsNameCharacter (c : Char) : Prop :=
  IsLetter c ∨ isAsciiDigit c = true ∨ c = '_' ∨ c = '.' ∨ c = '-'

instance (c : Char) : Decidable (IsNameCharacter c) :=
  inferInstanceAs (Decidable (IsLetter c ∨ _))

/-- What stands between a keyword and a reference: a colon with blanks around it, or blanks. -/
inductive IsSeparator : List Char → Prop
  | colon {before after : List Char} : (∀ c ∈ before, isBlank c = true) →
      (∀ c ∈ after, isBlank c = true) → IsSeparator (before ++ ':' :: after)
  | blanks {cs : List Char} : cs ≠ [] → (∀ c ∈ cs, isBlank c = true) → IsSeparator cs

/-- A repository with its owner. -/
@[ext]
structure Repository where
  owner : List Char
  name : List Char
  owner_ne_nil : owner ≠ []
  owner_characters : ∀ c ∈ owner, IsNameCharacter c
  name_ne_nil : name ≠ []
  name_characters : ∀ c ∈ name, IsNameCharacter c

/-- An owner and a repository, with a slash between them. -/
def Repository.text (r : Repository) : List Char := r.owner ++ '/' :: r.name

/-- A reference: perhaps a repository, and a number behind a number sign. -/
def referenceText (repository : Option Repository) (digits : List Char) : List Char :=
  repository.elim [] Repository.text ++ '#' :: digits

/-- A link to an issue. -/
@[ext]
structure Link where
  /-- The keyword, as it stands in the list of keywords. -/
  word : String
  /-- The keyword, as it is spelled. -/
  keyword : List Char
  separator : List Char
  repository : Option Repository
  digits : List Char
  word_mem : word ∈ keywords
  spelled : List.Forall₂ (fun w c => matchesIgnoringCase w c = true) word.toList keyword
  isSeparator : IsSeparator separator
  digits_ne_nil : digits ≠ []
  isDigit_of_mem : ∀ c ∈ digits, isDigit c = true

/-- The reference of a link. -/
def Link.reference (l : Link) : List Char := referenceText l.repository l.digits

/-- The link that is written from its parts. -/
def Link.text (l : Link) : List Char := l.keyword ++ (l.separator ++ l.reference)

/-- A link stands in a text, behind `before` and in front of `after`, and no word ends where it
starts. -/
structure Link.StandsIn (l : Link) (text before after : List Char) : Prop where
  cut : text = before ++ (l.text ++ after)
  free : ∀ c ∈ before.getLast?, isWord c = false

/-- A link stands leftmost in a text, and its digits go on as long as there are any. -/
def Link.IsFirstIn (l : Link) (text : List Char) : Prop :=
  ∃ before after, l.StandsIn text before after ∧ (∀ c ∈ after.head?, isDigit c = false) ∧
    ∀ (l' : Link) before' after', l'.StandsIn text before' after' → before.length ≤ before'.length

variable {cs rest after before r : List Char} {l l' : Link}

/-! ### Characters -/

/-- The characters of a name. -/
theorem isNameChar_iff {c : Char} : isNameChar c = true ↔ IsNameCharacter c := by
  rw [IsNameCharacter, isLetter_iff]
  simp only [isNameChar, Bool.or_eq_true, beq_iff_eq, List.contains_iff_mem]
  tauto

/-- A character of a name is neither a blank nor a colon. -/
theorem IsNameCharacter.isBlank_eq_false {c : Char} (h : IsNameCharacter c) :
    isBlank c = false ∧ c ≠ ':' := by
  have hascii (hc : c.toNat < 128) : isBlank c = false ∧ c ≠ ':' :=
    of_lt_128 (fun c => isNameChar c = true → isBlank c = false ∧ c ≠ ':') (by decide +kernel) hc
      (isNameChar_iff.mpr h)
  rcases h with h | h | rfl | rfl | rfl
  · rcases isLetter_iff.mp h with h | h
    · exact hascii (lt_128_of_isAsciiLetter h)
    · have hfolded : ∀ c ∈ foldedLetters, isBlank c = false ∧ c ≠ ':' :=
        forall_mem_of_all (by decide)
      exact hfolded c h
  · simp only [isAsciiDigit, Bool.and_eq_true, decide_eq_true_eq] at h
    exact hascii (lt_128_of_le h.2 (by decide))
  all_goals decide

/-- The keyword of a link is made of letters, and these tell which one it is. -/
theorem letters_of_spelled {word spelled : List Char} (hword : ∀ w ∈ word, w ∈ smallLetters)
    (h : List.Forall₂ (fun w c => matchesIgnoringCase w c = true) word spelled) :
    (∀ c ∈ spelled, IsLetter c) ∧ spelled.map smallLetter = word := by
  induction h with
  | nil => simp
  | cons hwc _ ih =>
      obtain ⟨hw, hword⟩ := List.forall_mem_cons.mp hword
      obtain ⟨hletters, hsmall⟩ := ih hword
      exact ⟨List.forall_mem_cons.mpr ⟨⟨_, hw, hwc⟩, hletters⟩,
        by rw [List.map_cons, eq_smallLetter_of_matches hw hwc, hsmall]⟩

/-- Keywords are written with small letters. -/
theorem mem_smallLetters_of_mem_keywords :
    ∀ word ∈ keywords, ∀ w ∈ word.toList, w ∈ smallLetters := by
  have hall : ∀ word ∈ keywords, word.toList.all (smallLetters.contains ·) = true := by decide
  exact fun word hword w hw => by simpa using List.all_eq_true.mp (hall word hword) w hw

/-- A separator starts with a blank or a colon. -/
theorem IsSeparator.exists_cons {separator : List Char} (h : IsSeparator separator) :
    ∃ c cs, separator = c :: cs ∧ (isBlank c = true ∨ c = ':') := by
  cases h with
  | @colon before after hbefore =>
      cases before with
      | nil => exact ⟨':', after, rfl, .inr rfl⟩
      | cons c before => exact ⟨c, _, rfl, .inl (hbefore c List.mem_cons_self)⟩
  | blanks hne hblank =>
      obtain ⟨c, cs, rfl⟩ := List.exists_cons_of_ne_nil hne
      exact ⟨c, cs, rfl, .inl (hblank c List.mem_cons_self)⟩

/-! ### Reading a reference -/

/-- A number is found exactly where one stands, with all of its digits. -/
theorem number?_eq_some_iff : number? cs = some r ↔
    ∃ digits after, digits ≠ [] ∧ (∀ c ∈ digits, isDigit c = true) ∧
      (∀ c ∈ after.head?, isDigit c = false) ∧ cs = '#' :: (digits ++ after) ∧
      r = '#' :: digits := by
  constructor
  · intro h
    unfold number? at h
    split at h
    · next rest =>
        split at h
        · cases h
        · next hne =>
            refine ⟨rest.takeWhile isDigit, rest.dropWhile isDigit, by simpa using hne,
              fun c hc => List.mem_takeWhile_imp hc, stops_dropWhile isDigit rest, ?_,
              (Option.some.inj h).symm⟩
            rw [List.takeWhile_append_dropWhile]
    · cases h
  · rintro ⟨digits, after, hne, hdigits, hstops, rfl, rfl⟩
    rw [number?, takeWhile_append_of_stops hdigits hstops]
    cases digits with
    | nil => exact absurd rfl hne
    | cons d digits => rfl

/-- The characters of an owner and of a name are of one class. -/
theorem Repository.isNameChar_of_mem (s : Repository) :
    (∀ c ∈ s.owner, isNameChar c = true) ∧ ∀ c ∈ s.name, isNameChar c = true :=
  ⟨fun c hc => isNameChar_iff.mpr (s.owner_characters c hc),
    fun c hc => isNameChar_iff.mpr (s.name_characters c hc)⟩

/-- An owner ends in front of a slash. -/
theorem stops_slash (rest : List Char) : ∀ c ∈ ('/' :: rest).head?, isNameChar c = false := by
  simp only [List.head?_cons, Option.mem_some_iff, forall_eq']
  decide

/-- A name ends in front of a number sign. -/
theorem stops_numberSign (rest : List Char) :
    ∀ c ∈ ('#' :: rest).head?, isNameChar c = false := by
  simp only [List.head?_cons, Option.mem_some_iff, forall_eq']
  decide

/-- A repository is found in front of a number. -/
theorem qualified?_append (s : Repository) (rest : List Char) :
    qualified? (s.text ++ '#' :: rest) = (number? ('#' :: rest)).map (s.text ++ ·) := by
  obtain ⟨howner, hname⟩ := s.isNameChar_of_mem
  have htext : s.text ++ '#' :: rest = s.owner ++ '/' :: (s.name ++ '#' :: rest) := by
    simp [Repository.text]
  have hne : (s.owner.isEmpty || s.name.isEmpty) = false := by
    simp [s.owner_ne_nil, s.name_ne_nil]
  simp only [qualified?, htext, takeWhile_append_of_stops howner (stops_slash _),
    dropWhile_append_of_stops howner (stops_slash _),
    takeWhile_append_of_stops hname (stops_numberSign _),
    dropWhile_append_of_stops hname (stops_numberSign _), hne, Bool.false_eq_true, if_false]
  rfl

/-- Where a number is found behind a repository, both stand there. -/
theorem exists_of_qualified? (h : qualified? cs = some r) : ∃ (s : Repository) (rest n : List Char),
    number? rest = some n ∧ cs = s.text ++ rest ∧ r = s.text ++ n := by
  have hname {part : List Char} : ∀ c ∈ part.takeWhile isNameChar, IsNameCharacter c :=
    fun c hc => isNameChar_iff.mp (List.mem_takeWhile_imp hc)
  unfold qualified? at h
  dsimp only at h
  split at h
  · next rest hrest =>
      split at h
      · cases h
      · next hne =>
          rw [Bool.or_eq_true, not_or] at hne
          obtain ⟨n, hn, rfl⟩ := Option.map_eq_some_iff.mp h
          refine ⟨⟨cs.takeWhile isNameChar, rest.takeWhile isNameChar, by simpa using hne.1, hname,
            by simpa using hne.2, hname⟩, rest.dropWhile isNameChar, n, hn, ?_, rfl⟩
          calc cs = cs.takeWhile isNameChar ++ '/' :: rest := by
                rw [← hrest, List.takeWhile_append_dropWhile]
            _ = _ := by
                rw [Repository.text, List.append_assoc, List.cons_append,
                  List.takeWhile_append_dropWhile]
  · cases h

/-- A text that starts with an owner does not start with a number sign. -/
theorem Repository.text_append_ne (s : Repository) (rest rest' : List Char) :
    s.text ++ rest ≠ '#' :: rest' := by
  intro h
  obtain ⟨c, owner, howner⟩ := List.exists_cons_of_ne_nil s.owner_ne_nil
  obtain rfl : c = '#' := by simpa [text, howner] using congrArg List.head? h
  exact absurd (s.owner_characters '#' (by simp [howner])) (by decide)

/-- A repository ends in front of the first number sign, and its owner in front of the first
slash. -/
theorem Repository.text_append_inj {s s' : Repository} {rest rest' : List Char}
    (h : s.text ++ '#' :: rest = s'.text ++ '#' :: rest') : s = s' ∧ rest = rest' := by
  simp only [text, List.append_assoc, List.cons_append] at h
  obtain ⟨howner, htail⟩ := append_inj_of_stops s.isNameChar_of_mem.1 (stops_slash _)
    s'.isNameChar_of_mem.1 (stops_slash _) h
  obtain ⟨hname, hrest⟩ := append_inj_of_stops s.isNameChar_of_mem.2 (stops_numberSign _)
    s'.isNameChar_of_mem.2 (stops_numberSign _) (List.cons.inj htail).2
  exact ⟨Repository.ext howner hname, (List.cons.inj hrest).2⟩

/-- **Which texts start with a reference**: a number with all of its digits, behind a repository or
alone. -/
theorem reference?_eq_some_iff : reference? cs = some r ↔
    ∃ repository digits after, digits ≠ [] ∧ (∀ c ∈ digits, isDigit c = true) ∧
      (∀ c ∈ after.head?, isDigit c = false) ∧ cs = referenceText repository digits ++ after ∧
      r = referenceText repository digits := by
  rw [reference?, Option.or_eq_some_iff]
  constructor
  · rintro (h | ⟨-, h⟩)
    · obtain ⟨digits, after, hnumber⟩ := number?_eq_some_iff.mp h
      exact ⟨none, digits, after, hnumber⟩
    · obtain ⟨s, rest, n, hn, rfl, rfl⟩ := exists_of_qualified? h
      obtain ⟨digits, after, hne, hdigits, hstops, rfl, rfl⟩ := number?_eq_some_iff.mp hn
      exact ⟨some s, digits, after, hne, hdigits, hstops, by simp [referenceText], rfl⟩
  · rintro ⟨repository, digits, after, hne, hdigits, hstops, rfl, rfl⟩
    have hnumber : number? ('#' :: (digits ++ after)) = some ('#' :: digits) :=
      number?_eq_some_iff.mpr ⟨digits, after, hne, hdigits, hstops, rfl, rfl⟩
    cases repository with
    | none => exact .inl hnumber
    | some s =>
        have htext : referenceText (some s) digits ++ after =
            s.text ++ '#' :: (digits ++ after) := by
          simp [referenceText]
        rw [htext, qualified?_append, hnumber]
        refine .inr ⟨?_, rfl⟩
        -- A text that starts with an owner does not start with a number sign.
        rw [Option.eq_none_iff_forall_ne_some]
        intro n hn
        obtain ⟨_, _, -, -, -, hcut, -⟩ := number?_eq_some_iff.mp hn
        exact s.text_append_ne _ _ hcut

/-- A reference starts neither with a blank nor with a colon. -/
theorem referenceText_starts (repository : Option Repository) (digits after : List Char) :
    ∀ c ∈ (referenceText repository digits ++ after).head?, isBlank c = false ∧ c ≠ ':' := by
  intro c hc
  cases repository with
  | none =>
      obtain rfl : '#' = c := by simpa [referenceText] using hc
      decide
  | some repository =>
      obtain ⟨d, owner, howner⟩ := List.exists_cons_of_ne_nil repository.owner_ne_nil
      obtain rfl : d = c := by simpa [referenceText, Repository.text, howner] using hc
      exact (repository.owner_characters d (by simp [howner])).isBlank_eq_false

/-- The repository of a reference is told by its characters. -/
theorem referenceText_inj {repository repository' : Option Repository}
    {digits digits' after' : List Char}
    (h : referenceText repository digits ++ after = referenceText repository' digits' ++ after') :
    repository = repository' ∧ digits ++ after = digits' ++ after' := by
  simp only [referenceText, List.append_assoc, List.cons_append] at h
  cases repository with
  | none =>
      cases repository' with
      | none => exact ⟨rfl, (List.cons.inj h).2⟩
      | some s => exact absurd h.symm (s.text_append_ne _ _)
  | some s =>
      cases repository' with
      | none => exact absurd h (s.text_append_ne _ _)
      | some s' =>
          obtain ⟨hrepository, hdigits⟩ := Repository.text_append_inj h
          exact ⟨congrArg some hrepository, hdigits⟩

/-! ### Reading a separator -/

/-- What is left behind a separator is the text without it. -/
theorem eq_append_of_afterSeparator? (h : afterSeparator? cs = some rest) :
    ∃ separator, IsSeparator separator ∧ cs = separator ++ rest := by
  have hblanks (cs : List Char) : ∀ c ∈ cs.takeWhile isBlank, isBlank c = true :=
    fun c hc => List.mem_takeWhile_imp hc
  have hcut := List.takeWhile_append_dropWhile (p := isBlank) (l := cs)
  unfold afterSeparator? at h
  split at h
  · next tail htail =>
      obtain rfl := Option.some.inj h
      refine ⟨_, .colon (hblanks cs) (hblanks tail), ?_⟩
      rw [List.append_assoc, List.cons_append, List.takeWhile_append_dropWhile, ← htail, hcut]
  · split at h
    · next hblank =>
        obtain rfl := Option.some.inj h
        refine ⟨_, .blanks ?_ (hblanks cs), hcut.symm⟩
        cases cs with
        | nil => simp at hblank
        | cons c cs => simpa using hblank
    · cases h

/-- A separator is passed over whole in front of what starts neither with a blank nor with a
colon. -/
theorem afterSeparator?_append {separator : List Char} (h : IsSeparator separator)
    (hrest : ∀ c ∈ rest.head?, isBlank c = false ∧ c ≠ ':') :
    afterSeparator? (separator ++ rest) = some rest := by
  have hstops : ∀ c ∈ rest.head?, isBlank c = false := fun c hc => (hrest c hc).1
  cases h with
  | @colon before after hbefore hafter =>
      simp only [List.append_assoc, List.cons_append, afterSeparator?,
        dropWhile_append_cons hbefore (by decide : isBlank ':' = false),
        dropWhile_append_of_stops hafter hstops]
  | blanks hne hblank =>
      obtain ⟨c, separator, rfl⟩ := List.exists_cons_of_ne_nil hne
      rw [afterSeparator?, dropWhile_append_of_stops hblank hstops]
      split
      · exact absurd rfl (hrest ':' rfl).2
      · simp [hblank c List.mem_cons_self]

/-! ### Reading a link -/

/-- A link is passed over up to its reference. -/
theorem Link.afterSeparator?_append (l : Link) (after : List Char) :
    afterSeparator? (l.separator ++ (l.reference ++ after)) = some (l.reference ++ after) :=
  IssueReference.afterSeparator?_append l.isSeparator
    (referenceText_starts l.repository l.digits after)

/-- Behind a separator no keyword goes on. -/
theorem IsSeparator.stops_letters {separator : List Char} (h : IsSeparator separator)
    (rest : List Char) : ∀ c ∈ (separator ++ rest).head?, decide (IsLetter c) = false := by
  obtain ⟨c, separator, rfl, hc⟩ := h.exists_cons
  simp only [List.cons_append, List.head?_cons, Option.mem_some_iff, forall_eq',
    decide_eq_false_iff_not]
  intro hletter
  obtain ⟨hblank, hcolon⟩ := IsNameCharacter.isBlank_eq_false (.inl hletter)
  rcases hc with hc | hc
  · rw [hblank] at hc
    cases hc
  · exact hcolon hc

/-- **A link can be read in one way only**, but for how many digits belong to it. -/
theorem Link.parts_unique {after' : List Char} (h : l.text ++ after = l'.text ++ after') :
    l.word = l'.word ∧ l.keyword = l'.keyword ∧ l.separator = l'.separator ∧
      l.repository = l'.repository ∧ l.digits ++ after = l'.digits ++ after' := by
  have hletters (l : Link) := letters_of_spelled
    (mem_smallLetters_of_mem_keywords l.word l.word_mem) l.spelled
  have hclass (l : Link) : ∀ c ∈ l.keyword, decide (IsLetter c) = true :=
    fun c hc => decide_eq_true ((hletters l).1 c hc)
  simp only [text, List.append_assoc] at h
  obtain ⟨hkeyword, htail⟩ := append_inj_of_stops (hclass l) (l.isSeparator.stops_letters _)
    (hclass l') (l'.isSeparator.stops_letters _) h
  have hword : l.word = l'.word := by
    rw [← String.toList_inj, ← (hletters l).2, ← (hletters l').2, hkeyword]
  have hreference : l.reference ++ after = l'.reference ++ after' := by
    rw [← Option.some_inj, ← l.afterSeparator?_append, ← l'.afterSeparator?_append, htail]
  have hseparator : l.separator = l'.separator := by
    rw [hreference] at htail
    exact List.append_cancel_right htail
  obtain ⟨hrepository, hdigits⟩ := referenceText_inj hreference
  exact ⟨hword, hkeyword, hseparator, hrepository, hdigits⟩

/-- A link whose digits go on as long as there are any can be read in one way only. -/
theorem Link.eq_of_text_append {after' : List Char} (h : l.text ++ after = l'.text ++ after')
    (hstops : ∀ c ∈ after.head?, isDigit c = false)
    (hstops' : ∀ c ∈ after'.head?, isDigit c = false) : l = l' := by
  obtain ⟨hword, hkeyword, hseparator, hrepository, htail⟩ := Link.parts_unique h
  obtain ⟨hdigits, -⟩ :=
    append_inj_of_stops l.isDigit_of_mem hstops l'.isDigit_of_mem hstops' htail
  exact Link.ext hword hkeyword hseparator hrepository hdigits

/-- A link can be prolonged by the digits behind it. -/
theorem Link.exists_whole (l : Link) (after : List Char) : ∃ (l' : Link) (after' : List Char),
    l.text ++ after = l'.text ++ after' ∧ ∀ c ∈ after'.head?, isDigit c = false := by
  have hall : ∀ c ∈ l.digits ++ after.takeWhile isDigit, isDigit c = true :=
    List.forall_mem_append.mpr ⟨l.isDigit_of_mem, fun c hc => List.mem_takeWhile_imp hc⟩
  refine ⟨{ l with
    digits := l.digits ++ after.takeWhile isDigit
    digits_ne_nil := by simp [l.digits_ne_nil]
    isDigit_of_mem := hall }, after.dropWhile isDigit, ?_, stops_dropWhile isDigit after⟩
  simp [text, reference, referenceText]

/-- The reference of a link with a keyword, if a text starts with one. -/
def linkOf? (cs : List Char) (keyword : String) : Option (List Char) :=
  (afterIgnoringCase? keyword.toList cs).bind fun rest => (afterSeparator? rest).bind reference?

/-- A link with a keyword is found exactly where one stands. -/
theorem linkOf?_eq_some_iff {word : String} (hword : word ∈ keywords) :
    linkOf? cs word = some r ↔ ∃ (l : Link) (after : List Char), l.word = word ∧
      (∀ c ∈ after.head?, isDigit c = false) ∧ cs = l.text ++ after ∧ r = l.reference := by
  constructor
  · intro h
    obtain ⟨tail, hkeyword, h⟩ := Option.bind_eq_some_iff.mp h
    obtain ⟨rest, hseparator, hreference⟩ := Option.bind_eq_some_iff.mp h
    obtain ⟨keyword, rfl, hspelled⟩ := eq_append_of_afterIgnoringCase? hkeyword
    obtain ⟨separator, hisSeparator, rfl⟩ := eq_append_of_afterSeparator? hseparator
    obtain ⟨repository, digits, after, hdigits, hall, hstops, rfl, rfl⟩ :=
      reference?_eq_some_iff.mp hreference
    refine ⟨⟨word, keyword, separator, repository, digits, hword, hspelled, hisSeparator, hdigits,
      hall⟩, after, rfl, hstops, ?_, rfl⟩
    simp [Link.text, Link.reference]
  · rintro ⟨l, after, rfl, hstops, rfl, rfl⟩
    have hreference : reference? (l.reference ++ after) = some l.reference :=
      reference?_eq_some_iff.mpr ⟨l.repository, l.digits, after, l.digits_ne_nil, l.isDigit_of_mem,
        hstops, rfl, rfl⟩
    rw [linkOf?, Link.text, List.append_assoc, List.append_assoc,
      afterIgnoringCase?_append l.spelled, Option.bind_some, l.afterSeparator?_append,
      Option.bind_some, hreference]

/-- Where all values that a function has on a list are the same, the order of the list does not
matter. -/
theorem findSome?_eq_some_iff_of_unique {α β : Type} {f : α → Option β} {as : List α} {b : β}
    (h : ∀ a ∈ as, ∀ a' ∈ as, ∀ x y, f a = some x → f a' = some y → x = y) :
    as.findSome? f = some b ↔ ∃ a ∈ as, f a = some b := by
  refine ⟨List.exists_of_findSome?_eq_some, ?_⟩
  rintro ⟨a, ha, hb⟩
  have hfound : (as.findSome? f).isSome = true :=
    List.findSome?_isSome_iff.mpr ⟨a, ha, by rw [hb, Option.isSome_some]⟩
  obtain ⟨x, hx⟩ := Option.isSome_iff_exists.mp hfound
  obtain ⟨a', ha', hx'⟩ := List.exists_of_findSome?_eq_some hx
  rw [hx, h a' ha' a ha x b hx' hb]

/-- **Which texts start with a link**, with keywords that are tried in any order. -/
theorem findSome?_linkOf?_eq_some_iff {words : List String} (hwords : words.Perm keywords) :
    words.findSome? (linkOf? cs) = some r ↔ ∃ (l : Link) (after : List Char),
      (∀ c ∈ after.head?, isDigit c = false) ∧ cs = l.text ++ after ∧ r = l.reference := by
  have hunique : ∀ word ∈ words, ∀ word' ∈ words, ∀ x y, linkOf? cs word = some x →
      linkOf? cs word' = some y → x = y := by
    intro word hword word' hword' x y hx hy
    obtain ⟨l, after, -, hstops, hcut, rfl⟩ := (linkOf?_eq_some_iff (hwords.mem_iff.mp hword)).mp hx
    obtain ⟨l', after', -, hstops', hcut', rfl⟩ :=
      (linkOf?_eq_some_iff (hwords.mem_iff.mp hword')).mp hy
    obtain rfl : l = l' := Link.eq_of_text_append (hcut.symm.trans hcut') hstops hstops'
    rfl
  rw [findSome?_eq_some_iff_of_unique hunique]
  constructor
  · rintro ⟨word, hword, h⟩
    obtain ⟨l, after, -, hl⟩ := (linkOf?_eq_some_iff (hwords.mem_iff.mp hword)).mp h
    exact ⟨l, after, hl⟩
  · rintro ⟨l, after, hl⟩
    exact ⟨l.word, hwords.mem_iff.mpr l.word_mem,
      (linkOf?_eq_some_iff l.word_mem).mpr ⟨l, after, rfl, hl⟩⟩

/-- **Which texts start with a link.** -/
theorem link?_eq_some_iff : link? cs = some r ↔ ∃ (l : Link) (after : List Char),
    (∀ c ∈ after.head?, isDigit c = false) ∧ cs = l.text ++ after ∧ r = l.reference :=
  findSome?_linkOf?_eq_some_iff (List.Perm.refl keywords)

/-! ### Searching for a link -/

/-- Whether a word ends at the end of a text. The flag says whether one ends before it. -/
def endsWord (inWord : Bool) (before : List Char) : Bool := (before.getLast?.map isWord).getD inWord

theorem endsWord_cons (inWord : Bool) (c : Char) (before : List Char) :
    endsWord inWord (c :: before) = endsWord (isWord c) before := by
  cases before using List.reverseRecOn <;> simp [endsWord, List.getLast?_cons]

/-- No link is found where none starts. -/
theorem link?_eq_none_iff : link? cs = none ↔ ∀ (l : Link) after, cs ≠ l.text ++ after := by
  rw [Option.eq_none_iff_forall_ne_some]
  constructor
  · rintro h l after rfl
    obtain ⟨l', after', hcut, hstops⟩ := l.exists_whole after
    exact h _ (link?_eq_some_iff.mpr ⟨l', after', hstops, hcut, rfl⟩)
  · intro h r hr
    obtain ⟨l, after, -, hcut, -⟩ := link?_eq_some_iff.mp hr
    exact h l after hcut

/-- **A search finds the leftmost link.** -/
theorem findFrom?_eq_some {inWord : Bool} (h : findFrom? inWord cs = some r) :
    ∃ before after, ∃ l : Link, cs = before ++ (l.text ++ after) ∧ endsWord inWord before = false ∧
      (∀ c ∈ after.head?, isDigit c = false) ∧ r = l.reference ∧
      ∀ (l' : Link) before' after', cs = before' ++ (l'.text ++ after') →
        endsWord inWord before' = false → before.length ≤ before'.length := by
  induction cs generalizing inWord with
  | nil => cases h
  | cons c cs ih =>
      rw [findFrom?] at h
      split at h
      · next r' hr =>
          obtain rfl := Option.some.inj h
          obtain ⟨hfree, hlink⟩ : inWord = false ∧ link? (c :: cs) = some r' := by simpa using hr
          obtain ⟨l, after, hstops, hcut, hreference⟩ := link?_eq_some_iff.mp hlink
          exact ⟨[], after, l, hcut, hfree, hstops, hreference, fun _ _ _ _ _ => Nat.zero_le _⟩
      · next hnone =>
          obtain ⟨before, after, l, rfl, hfree, hstops, hreference, hfirst⟩ := ih h
          refine ⟨c :: before, after, l, rfl, by rwa [endsWord_cons], hstops, hreference, ?_⟩
          intro l' before' after' hcut hfree'
          cases before' with
          | nil =>
              obtain rfl : inWord = false := hfree'
              exact absurd hcut (link?_eq_none_iff.mp hnone l' after')
          | cons d before' =>
              obtain ⟨rfl, htail⟩ := List.cons.inj hcut
              rw [endsWord_cons] at hfree'
              exact Nat.succ_le_succ (hfirst l' before' after' htail hfree')

/-- A search finds a link wherever one stands. -/
theorem isSome_findFrom? {inWord : Bool} (hcut : cs = before ++ (l.text ++ after))
    (hfree : endsWord inWord before = false) : (findFrom? inWord cs).isSome = true := by
  induction cs generalizing inWord before with
  | nil =>
      simp [Link.text, Link.reference, referenceText] at hcut
  | cons c cs ih =>
      rw [findFrom?]
      split
      · rfl
      · next hnone =>
          cases before with
          | nil =>
              obtain rfl : inWord = false := hfree
              exact absurd hcut (link?_eq_none_iff.mp hnone l after)
          | cons d before =>
              obtain ⟨rfl, htail⟩ := List.cons.inj hcut
              rw [endsWord_cons] at hfree
              exact ih htail hfree

/-- No word ends in front of a link that stands in a text. -/
theorem endsWord_eq_false_iff :
    endsWord false before = false ↔ ∀ c ∈ before.getLast?, isWord c = false := by
  cases h : before.getLast? <;> simp [endsWord, h]

/-! ### What is found in a description -/

/-- A text has one first link at most. -/
theorem Link.IsFirstIn.unique (h : l.IsFirstIn cs) (h' : l'.IsFirstIn cs) : l = l' := by
  obtain ⟨before, after, hstands, hstops, hfirst⟩ := h
  obtain ⟨before', after', hstands', hstops', hfirst'⟩ := h'
  have hlength : before.length = before'.length :=
    Nat.le_antisymm (hfirst _ _ _ hstands') (hfirst' _ _ _ hstands)
  obtain ⟨-, htext⟩ := List.append_inj (hstands.cut.symm.trans hstands'.cut) hlength
  exact Link.eq_of_text_append htext hstops hstops'

/-- A link that stands in a text stands in every text with more around it, unless it then continues a
word. -/
theorem Link.StandsIn.between (h : l.StandsIn cs before after) {first last : List Char}
    (hfirst : ∀ c ∈ first.getLast?, isWord c = false) :
    l.StandsIn (first ++ cs ++ last) (first ++ before) (after ++ last) where
  cut := by simp [h.cut]
  free := by
    cases before using List.reverseRecOn with
    | nil => simpa using hfirst
    | append_singleton before c => simpa [← List.append_assoc] using h.free

/-- Something is found exactly if a link stands in a description. -/
theorem isSome_find?_iff {body : String} : (find? body).isSome = true ↔
    ∃ (l : Link) (before after : List Char), l.StandsIn body.toList before after := by
  rw [find?, Option.isSome_map]
  constructor
  · intro h
    obtain ⟨r, hr⟩ := Option.isSome_iff_exists.mp h
    obtain ⟨before, after, l, hcut, hfree, -⟩ := findFrom?_eq_some hr
    exact ⟨l, before, after, hcut, endsWord_eq_false_iff.mp hfree⟩
  · rintro ⟨l, before, after, hcut, hfree⟩
    exact isSome_findFrom? hcut (endsWord_eq_false_iff.mpr hfree)

/-- What is found is the reference of the first link. -/
theorem find?_eq_some_iff {body r : String} : find? body = some r ↔
    ∃ l : Link, l.IsFirstIn body.toList ∧ r = String.ofList l.reference := by
  have hfound {r : String} (h : find? body = some r) :
      ∃ l : Link, l.IsFirstIn body.toList ∧ r = String.ofList l.reference := by
    obtain ⟨cs, hcs, rfl⟩ := Option.map_eq_some_iff.mp h
    obtain ⟨before, after, l, hcut, hfree, hstops, rfl, hfirst⟩ := findFrom?_eq_some hcs
    refine ⟨l, ⟨before, after, ⟨hcut, endsWord_eq_false_iff.mp hfree⟩, hstops, ?_⟩, rfl⟩
    exact fun l' before' after' h' => hfirst l' before' after' h'.cut
      (endsWord_eq_false_iff.mpr h'.free)
  refine ⟨hfound, ?_⟩
  rintro ⟨l, hl, rfl⟩
  obtain ⟨before, after, hstands, -⟩ := id hl
  obtain ⟨r, hr⟩ := Option.isSome_iff_exists.mp (isSome_find?_iff.mpr ⟨l, before, after, hstands⟩)
  obtain ⟨l', hl', rfl⟩ := hfound hr
  rw [hr, hl.unique hl']

/-- Nothing is found wrong with a description exactly if something is found in it. -/
theorem findings_eq_nil_iff {body : String} : findings body = [] ↔ (find? body).isSome = true := by
  cases hfind : find? body <;> simp [findings, hfind]

/-- **What is found in a description** is the reference of the first link in it, with all of its
digits; something is found if a link stands there at all. At one place a link can be read in one way
only, so the order of the keywords does not matter. A description in which a link is found may be put
behind anything that does not end a word, and in front of anything. -/
theorem find?_leftmost (body : String) :
    (∀ r, find? body = some r ↔
      ∃ l : Link, l.IsFirstIn body.toList ∧ r = String.ofList l.reference) ∧
    (findings body = [] ↔
      ∃ (l : Link) (before after : List Char), l.StandsIn body.toList before after) ∧
    (∀ (l l' : Link) (before after after' : List Char), l.StandsIn body.toList before after →
      l'.StandsIn body.toList before after' → l.word = l'.word ∧ l.keyword = l'.keyword ∧
        l.separator = l'.separator ∧ l.repository = l'.repository) ∧
    (∀ words : List String, words.Perm keywords →
      ∀ cs, words.findSome? (linkOf? cs) = link? cs) ∧
    (findings body = [] → ∀ first last : String,
      (∀ c ∈ first.toList.getLast?, isWord c = false) → findings (first ++ body ++ last) = []) := by
  refine ⟨fun r => find?_eq_some_iff, findings_eq_nil_iff.trans isSome_find?_iff, ?_, ?_, ?_⟩
  · intro l l' before after after' h h'
    have htext := List.append_cancel_left (h.cut.symm.trans h'.cut)
    obtain ⟨hword, hkeyword, hseparator, hrepository, -⟩ := Link.parts_unique htext
    exact ⟨hword, hkeyword, hseparator, hrepository⟩
  · intro words hwords cs
    refine Option.ext fun r => ?_
    rw [findSome?_linkOf?_eq_some_iff hwords, link?_eq_some_iff]
  · intro h first last hfirst
    rw [findings_eq_nil_iff, isSome_find?_iff] at h ⊢
    obtain ⟨l, before, after, hstands⟩ := h
    refine ⟨l, first.toList ++ before, after ++ last.toList, ?_⟩
    rw [String.toList_append, String.toList_append]
    exact hstands.between hfirst

/-- A link with a colon between blanks and a repository. -/
def closingLink : Link where
  word := "closes"
  keyword := "CloSes".toList
  separator := " :\n".toList
  repository := some ⟨"me".toList, "a.b".toList, by decide, forall_mem_of_all (by decide +kernel),
    by decide, forall_mem_of_all (by decide +kernel)⟩
  digits := "42".toList
  word_mem := by decide
  spelled := by decide +kernel
  isSeparator := .colon (forall_mem_of_all (by decide) : ∀ c ∈ [' '], isBlank c = true)
    (forall_mem_of_all (by decide) : ∀ c ∈ ['\n'], isBlank c = true)
  digits_ne_nil := by decide
  isDigit_of_mem := forall_mem_of_all (by decide +kernel)

/-- It is found behind a word that ends with a keyword, and no other keyword is found there.
Something is also found with digits behind it or another link in front of it. -/
theorem find?_leftmost_closing :
    let body := "hotfix #1 CloSes :\nme/a.b#42"
    find? body = some "me/a.b#42" ∧ findings body = [] ∧ findings ("Fix #7, " ++ body ++ "3x") = [] ∧
      ∀ (l : Link) after, l.StandsIn body.toList "hotfix #1 ".toList after → l.word = "closes" := by
  intro body
  have hstands : closingLink.StandsIn body.toList "hotfix #1 ".toList [] :=
    ⟨by decide +kernel, endsWord_eq_false_iff.mp (by decide +kernel)⟩
  obtain ⟨hfind, hfindings, hparts, -, haround⟩ := find?_leftmost body
  have hfound : find? body = some "me/a.b#42" := by decide +kernel
  have haccepted := hfindings.mpr ⟨closingLink, _, _, hstands⟩
  have hfree : ∀ c ∈ "Fix #7, ".toList.getLast?, isWord c = false :=
    endsWord_eq_false_iff.mp (by decide +kernel)
  exact ⟨hfound, haccepted, haround haccepted _ _ hfree,
    fun l after hl => (hparts l closingLink _ _ _ hl hstands).1⟩

end MergeGate.IssueReference
