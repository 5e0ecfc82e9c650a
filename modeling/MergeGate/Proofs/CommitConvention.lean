import MergeGate.Check.CommitMessage
import MergeGate.Proofs.CharacterClass
import MergeGate.Proofs.Trimming

/-!
# The convention for commit messages, as a grammar

A first line follows the convention if it is written from a type, perhaps a scope, perhaps an
exclamation mark, and a subject. `Message` has these parts and `Message.text` writes them down, so
the lines that follow the convention are the texts of messages. Reading a line is the way back: it
finds the type and the scope of the message that the line is the text of, or finds that there is
none (`head?_eq_some_iff`).

No line can be written from two messages (`Message.text_injective`). The type goes on as long as
there are letters, and it is followed by a bracket, an exclamation mark or a colon; none of these is
a letter, nor is the closing bracket a character of a scope.

## Conventions

* `Message`, `Message.text`: the parts of a first line and how they are written.
* `IsOneOf`: a word is among the allowed ones in lower case; no allowed words stand for any.
* `Judged`: what the convention says about a line.
* `Commit.firstLine`: the first line of the message of a commit.

## Main results

* `Message.text_injective`: a line has its parts in one way only.
* `head?_eq_some_iff`: **which lines follow the convention**, and with which type and scope.
* `flaw?_eq_iff`: what is wrong with a commit is what the convention says about its first line.
* `violation?_eq_none_iff`: which commits are in order.
* `violation?_convention`: **what is wrong with a commit message**, in all cases.
-/

namespace MergeGate

open Text

/-- The first line of the message of a commit. -/
def Commit.firstLine (c : Commit) : List Char := (lines c.message.toList).headD []

namespace CommitMessage

/-- A character of a scope: a letter, a digit, an underscore or a hyphen. -/
def IsScopeCharacter (c : Char) : Prop :=
  IsLetter c ∨ isAsciiDigit c = true ∨ c = '_' ∨ c = '-'

instance (c : Char) : Decidable (IsScopeCharacter c) :=
  inferInstanceAs (Decidable (IsLetter c ∨ _))

/-- The parts of a first line that follows the convention. -/
@[ext]
structure Message where
  type : List Char
  scope : Option (List Char)
  /-- Whether an exclamation mark stands before the colon. -/
  marked : Bool
  subject : List Char
  type_ne_nil : type ≠ []
  type_letters : ∀ c ∈ type, IsLetter c
  scope_ne_nil : ∀ s ∈ scope, s ≠ []
  scope_characters : ∀ s ∈ scope, ∀ c ∈ s, IsScopeCharacter c
  subject_ne_nil : subject ≠ []

/-- A scope in its brackets, if there is one. -/
def bracketed (scope : Option (List Char)) : List Char :=
  scope.elim [] fun s => '(' :: s ++ [')']

/-- What stands behind the type and the scope of a line. -/
def ending (marked : Bool) (subject : List Char) : List Char :=
  (if marked then ['!'] else []) ++ ':' :: ' ' :: subject

/-- The line that is written from its parts. -/
def Message.text (m : Message) : List Char :=
  m.type ++ (bracketed m.scope ++ ending m.marked m.subject)

/-- A word is among the allowed ones, in lower case. No allowed words stand for any. -/
def IsOneOf (word : List Char) (allowed : List String) : Prop :=
  allowed = [] ∨ ∃ a ∈ allowed, lowerCase a.toList = lowerCase word

/-- The type of a message is one of those in use. -/
def Message.TypeAllowed (m : Message) (types : List String) : Prop := IsOneOf m.type types

/-- The scope of a message, if it has one, is one of those in use, if these are limited. -/
def Message.ScopeAllowed (m : Message) (scopes : Option (List String)) : Prop :=
  ∀ s ∈ m.scope, ∀ allowed ∈ scopes, IsOneOf s allowed

/-- What the convention says about a line: it is in order, or one thing is wrong with it. Its form is
looked at first, then its type, then its scope. -/
inductive Judged (types : List String) (scopes : Option (List String)) (line : List Char) :
    Option CommitFlaw → Prop
  | inOrder (m : Message) : m.text = line → m.TypeAllowed types → m.ScopeAllowed scopes →
      Judged types scopes line none
  | format : (¬ ∃ m : Message, m.text = line) → Judged types scopes line (some .format)
  | type (m : Message) : m.text = line → ¬ m.TypeAllowed types →
      Judged types scopes line (some (.type (String.ofList m.type) types))
  | scope (m : Message) (s : List Char) (allowed : List String) : m.text = line →
      m.TypeAllowed types → m.scope = some s → scopes = some allowed → ¬ IsOneOf s allowed →
      Judged types scopes line (some (.scope (String.ofList s) allowed))

/-! ### Characters -/

/-- The characters of a type are the letters. -/
theorem isTypeChar_iff {c : Char} : isTypeChar c = true ↔ IsLetter c := by
  rw [isLetter_iff, isTypeChar, Bool.or_eq_true, List.contains_iff_mem]

/-- The characters of a scope are these and a few more. -/
theorem isScopeChar_iff {c : Char} : isScopeChar c = true ↔ IsScopeCharacter c := by
  rw [IsScopeCharacter, ← isTypeChar_iff]
  simp [isScopeChar, or_assoc]

/-- A word is allowed exactly if it is one of the allowed ones. -/
theorem isAllowed_iff {word : List Char} {allowed : List String} :
    isAllowed word allowed = true ↔ IsOneOf word allowed := by
  simp [isAllowed, IsOneOf]

/-! ### Reading a line -/

variable {line rest tail scope : List Char} {marked : Bool} {subject : List Char}

/-- A text ends a head exactly if it is written from a mark and a subject. -/
theorem endsHead_iff :
    endsHead rest = true ↔ ∃ marked subject, subject ≠ [] ∧ rest = ending marked subject := by
  constructor
  · intro h
    unfold endsHead at h
    split at h
    · next subject => exact ⟨true, subject, by simpa using h, rfl⟩
    · next subject => exact ⟨false, subject, by simpa using h, rfl⟩
    · cases h
  · rintro ⟨marked, subject, hsubject, rfl⟩
    cases marked <;> simpa [ending, endsHead] using hsubject

/-- The scope that a text starts with stands there in brackets. -/
theorem scope?_eq_some_iff : scope? rest = some (scope, tail) ↔
    scope ≠ [] ∧ (∀ c ∈ scope, IsScopeCharacter c) ∧ rest = bracketed (some scope) ++ tail := by
  constructor
  · intro h
    unfold scope? at h
    split at h
    · next inside =>
        split at h
        · next c cs behind hscope hclose =>
            obtain ⟨rfl, rfl⟩ : c :: cs = scope ∧ behind = tail := by simpa using h
            have hcut := List.takeWhile_append_dropWhile (p := isScopeChar) (l := inside)
            rw [hscope, hclose] at hcut
            refine ⟨List.cons_ne_nil c cs, fun d hd => ?_, by simp [bracketed, ← hcut]⟩
            rw [← hscope] at hd
            exact isScopeChar_iff.mp (List.mem_takeWhile_imp hd)
        · cases h
    · cases h
  · rintro ⟨hne, hscope, rfl⟩
    have hall : ∀ c ∈ scope, isScopeChar c = true := fun c hc => isScopeChar_iff.mpr (hscope c hc)
    obtain ⟨c, cs, rfl⟩ := List.exists_cons_of_ne_nil hne
    have htext : bracketed (some (c :: cs)) ++ tail = '(' :: (c :: cs ++ ')' :: tail) := by
      simp [bracketed]
    simp only [htext, scope?, takeWhile_append_cons hall (by decide : isScopeChar ')' = false),
      dropWhile_append_cons hall (by decide : isScopeChar ')' = false)]

/-- What stands behind a type and its scope starts with no bracket. -/
theorem scope?_ending (marked : Bool) (subject : List Char) :
    scope? (ending marked subject) = none := by
  cases marked <;> rfl

/-- What stands behind a type starts with no letter. -/
theorem stops_type (scope : Option (List Char)) (marked : Bool) (subject : List Char) :
    ∀ c ∈ (bracketed scope ++ ending marked subject).head?, isTypeChar c = false := by
  cases scope <;> cases marked <;> simp [bracketed, ending] <;> decide

/-- The type and the scope of a message are found in its text. -/
theorem head?_text (m : Message) : head? m.text = some ⟨m.type, m.scope⟩ := by
  have htype : ∀ c ∈ m.type, isTypeChar c = true :=
    fun c hc => isTypeChar_iff.mpr (m.type_letters c hc)
  have hends : endsHead (ending m.marked m.subject) = true :=
    endsHead_iff.mpr ⟨m.marked, m.subject, m.subject_ne_nil, rfl⟩
  have hstops := stops_type m.scope m.marked m.subject
  rw [Message.text, head?, takeWhile_append_of_stops htype hstops,
    dropWhile_append_of_stops htype hstops, if_neg (by simpa using m.type_ne_nil)]
  cases hscope : m.scope with
  | none => simp only [bracketed, Option.elim_none, List.nil_append, scope?_ending, hends, if_true]
  | some s =>
      have hfound : scope? (bracketed (some s) ++ ending m.marked m.subject) =
          some (s, ending m.marked m.subject) :=
        scope?_eq_some_iff.mpr ⟨m.scope_ne_nil s hscope, m.scope_characters s hscope, rfl⟩
      simp only [hfound, hends, if_true]

/-- **A line has its parts in one way only.** -/
theorem Message.text_injective : Function.Injective Message.text := by
  intro m m' h
  have hhead : some (Head.mk m.type m.scope) = some ⟨m'.type, m'.scope⟩ := by
    rw [← head?_text, ← head?_text, h]
  obtain ⟨htype, hscope⟩ : m.type = m'.type ∧ m.scope = m'.scope := by simpa using hhead
  have hending : ending m.marked m.subject = ending m'.marked m'.subject := by
    rw [text, text, htype, hscope] at h
    exact List.append_cancel_left (List.append_cancel_left h)
  obtain ⟨hmarked, hsubject⟩ : m.marked = m'.marked ∧ m.subject = m'.subject := by
    revert hending
    cases m.marked <;> cases m'.marked <;> simp [ending]
  exact Message.ext htype hscope hmarked hsubject

/-- **Which lines follow the convention**: those that are the texts of messages. -/
theorem head?_eq_some_iff {head : Head} :
    head? line = some head ↔ ∃ m : Message, m.text = line ∧ head = ⟨m.type, m.scope⟩ := by
  constructor
  · intro h
    have hcut := List.takeWhile_append_dropWhile (p := isTypeChar) (l := line)
    have hletters : ∀ c ∈ line.takeWhile isTypeChar, IsLetter c :=
      fun c hc => isTypeChar_iff.mp (List.mem_takeWhile_imp hc)
    rw [head?] at h
    split at h
    · cases h
    · next hne =>
        have htype : line.takeWhile isTypeChar ≠ [] := by simpa using hne
        split at h
        · next scope tail hscope =>
            split at h
            · next hends =>
                obtain ⟨hscopeNe, hcharacters, hbracketed⟩ := scope?_eq_some_iff.mp hscope
                obtain ⟨marked, subject, hsubject, rfl⟩ := endsHead_iff.mp hends
                refine ⟨⟨_, some scope, marked, subject, htype, hletters, by simpa using hscopeNe,
                  by simpa using hcharacters, hsubject⟩, ?_, (Option.some.inj h).symm⟩
                rw [Message.text, ← hbracketed, hcut]
            · cases h
        · split at h
          · next hends =>
              obtain ⟨marked, subject, hsubject, hending⟩ := endsHead_iff.mp hends
              refine ⟨⟨_, none, marked, subject, htype, hletters, nofun, nofun, hsubject⟩, ?_,
                (Option.some.inj h).symm⟩
              rw [Message.text, ← hending]
              exact hcut
          · cases h
  · rintro ⟨m, rfl, rfl⟩
    exact head?_text m

/-- No head is found in a line that is the text of no message. -/
theorem head?_eq_none_iff : head? line = none ↔ ¬ ∃ m : Message, m.text = line := by
  rw [Option.eq_none_iff_forall_ne_some]
  constructor
  · rintro h ⟨m, rfl⟩
    exact h _ (head?_text m)
  · rintro h head hhead
    obtain ⟨m, hm, -⟩ := head?_eq_some_iff.mp hhead
    exact h ⟨m, hm⟩

/-! ### What is wrong with a commit -/

variable {types : List String} {scopes : Option (List String)} {commit : Commit}

/-- What stands before the first separator is the first part of a text. -/
theorem headD_splitAt (sep : Char) (cs : List Char) :
    (splitAt sep cs).headD [] = cs.takeWhile (· != sep) := by
  induction cs with
  | nil => rfl
  | cons c cs ih =>
      by_cases hc : c = sep
      · simp [splitAt, hc]
      · obtain ⟨first, others, hcs, hcons⟩ := splitAt_cons_of_ne hc cs
        rw [hcs] at ih
        rw [hcons, List.takeWhile_cons_of_pos (by simpa using hc), ← ih]
        rfl

/-- What is judged of a commit is the first line of its message, trimmed. -/
theorem toList_subject (commit : Commit) : commit.subject.toList = trim commit.firstLine := by
  rw [Commit.subject, String.toList_ofList, Commit.firstLine, lines, headD_splitAt]

/-- A message whose scope is limited is in order exactly if its scope is one of those in use. -/
theorem Message.scopeAllowed_iff {m : Message} {s : List Char} {allowed : List String}
    (hs : m.scope = some s) (hscopes : scopes = some allowed) :
    m.ScopeAllowed scopes ↔ IsOneOf s allowed := by
  simp [ScopeAllowed, hs, hscopes]

/-- Every commit is judged by the first line of its message. -/
theorem judged_flaw? (types : List String) (scopes : Option (List String)) (commit : Commit) :
    Judged types scopes (trim commit.firstLine) (flaw? types scopes commit) := by
  rw [flaw?, toList_subject]
  split
  · next hnone => exact .format (head?_eq_none_iff.mp hnone)
  · next head hhead =>
      obtain ⟨m, hm, rfl⟩ := head?_eq_some_iff.mp hhead
      split
      · next hrefused =>
          refine .type m hm fun hallowed => ?_
          rw [isAllowed_iff.mpr hallowed] at hrefused
          cases hrefused
      · next hallowed =>
          have htype : m.TypeAllowed types := isAllowed_iff.mp (by simpa using hallowed)
          split
          · next s allowed hs =>
              split
              · next hin =>
                  exact .inOrder m hm htype ((Message.scopeAllowed_iff hs rfl).mpr
                    (isAllowed_iff.mp hin))
              · next hout =>
                  exact .scope m s allowed hm htype hs rfl fun hin => hout (isAllowed_iff.mpr hin)
          · next hunlimited =>
              exact .inOrder m hm htype fun s hs allowed hscopes =>
                absurd hscopes (hunlimited s allowed hs)

/-- **What is wrong with a commit is what the convention says about its first line**, and so the
convention says one thing about each line. -/
theorem flaw?_eq_iff {flaw : Option CommitFlaw} :
    flaw? types scopes commit = flaw ↔ Judged types scopes (trim commit.firstLine) flaw := by
  refine ⟨fun h => h ▸ judged_flaw? types scopes commit, fun h => ?_⟩
  rw [flaw?, toList_subject]
  cases h with
  | inOrder m hm htype hscope =>
      have hallowed : isAllowed m.type types = true := isAllowed_iff.mpr htype
      simp only [← hm, head?_text, hallowed, Bool.not_true, Bool.false_eq_true, if_false]
      split
      · next s allowed hs =>
          rw [if_pos (isAllowed_iff.mpr ((Message.scopeAllowed_iff hs rfl).mp hscope))]
      · rfl
  | format hno => rw [head?_eq_none_iff.mpr hno]
  | type m hm hrefused =>
      have hout : isAllowed m.type types = false := by
        rw [← Bool.not_eq_true, isAllowed_iff]
        exact hrefused
      simp only [← hm, head?_text, hout, Bool.not_false, if_true]
  | scope m s allowed hm htype hs hscopes hrefused =>
      have hallowed : isAllowed m.type types = true := isAllowed_iff.mpr htype
      have hout : isAllowed s allowed = false := by
        rwa [← Bool.not_eq_true, isAllowed_iff]
      simp only [← hm, head?_text, hallowed, hs, hscopes, hout, Bool.not_true, Bool.false_eq_true,
        if_false]

/-- A commit is no violation exactly if its first line is the text of a message with a type and a
scope in use. -/
theorem violation?_eq_none_iff : violation? types scopes commit = none ↔
    ∃ m : Message, m.text = trim commit.firstLine ∧ m.TypeAllowed types ∧
      m.ScopeAllowed scopes := by
  rw [violation?, Option.map_eq_none_iff, flaw?_eq_iff]
  constructor
  · rintro ⟨m, hm, htype, hscope⟩
    exact ⟨m, hm, htype, hscope⟩
  · rintro ⟨m, hm, htype, hscope⟩
    exact .inOrder m hm htype hscope

/-- **What is wrong with a commit message.** No line has its parts in two ways. A commit is no
violation exactly if the first line of its message, trimmed, is written from parts with a type and a
scope in use; otherwise it is one for the first reason that the convention names. So commits with the
same first line are judged alike. -/
theorem violation?_convention (types : List String) (scopes : Option (List String))
    (commit : Commit) :
    Function.Injective Message.text ∧
    (violation? types scopes commit = none ↔
      ∃ m : Message, m.text = trim commit.firstLine ∧ m.TypeAllowed types ∧
        m.ScopeAllowed scopes) ∧
    (∀ flaw, violation? types scopes commit = flaw.map (CommitViolation.mk commit) ↔
      Judged types scopes (trim commit.firstLine) flaw) ∧
    ∀ other : Commit, trim other.firstLine = trim commit.firstLine →
      (violation? types scopes other).map CommitViolation.flaw =
        (violation? types scopes commit).map CommitViolation.flaw := by
  have hflaw (c : Commit) :
      (violation? types scopes c).map CommitViolation.flaw = flaw? types scopes c := by
    rw [violation?, Option.map_map]
    exact Option.map_id'
  refine ⟨Message.text_injective, violation?_eq_none_iff, fun flaw => ?_, fun other hline => ?_⟩
  · have hinjective : Function.Injective (CommitViolation.mk commit) := by
      intro a b hab
      exact congrArg CommitViolation.flaw hab
    rw [← flaw?_eq_iff, violation?]
    exact (Option.map_injective hinjective).eq_iff
  · rw [hflaw, hflaw, flaw?_eq_iff, hline]
    exact judged_flaw? types scopes commit

/-- A commit with a capital type, a capital scope and a mark. -/
def shouted : Commit := ⟨"c0ffee", "FEAT(UI)!: add (all)\r\n\r\nmore"⟩

/-- Another commit with the same first line but for the blanks around it. -/
def indented : Commit := ⟨"c0ffee", "\t FEAT(UI)!: add (all)"⟩

/-- The parts of their first line. -/
def shoutedMessage : Message where
  type := "FEAT".toList
  scope := some "UI".toList
  marked := true
  subject := "add (all)".toList
  type_ne_nil := by decide
  type_letters := forall_mem_of_all (by decide +kernel)
  scope_ne_nil := by decide
  scope_characters := by
    rintro s ⟨⟩
    exact forall_mem_of_all (by decide +kernel)
  subject_ne_nil := by decide

/-- Both commits are in order where types and scopes are in use that differ in case. -/
theorem violation?_convention_shouted :
    trim indented.firstLine = trim shouted.firstLine ∧
    violation? ["fix", "Feat"] (some ["ui"]) shouted = none ∧
    violation? ["fix", "Feat"] (some ["api"]) shouted =
      some ⟨shouted, .scope "UI" ["api"]⟩ ∧
    (violation? ["fix", "Feat"] (some ["api"]) indented).map CommitViolation.flaw =
      some (.scope "UI" ["api"]) := by
  have hline : trim indented.firstLine = trim shouted.firstLine := by decide
  have htext : shoutedMessage.text = trim shouted.firstLine := by decide
  have htype : shoutedMessage.TypeAllowed ["fix", "Feat"] := .inr ⟨"Feat", by decide, by decide⟩
  have hscope : shoutedMessage.ScopeAllowed (some ["ui"]) := by
    intro s hs allowed hallowed
    cases hs
    cases hallowed
    exact .inr ⟨"ui", by decide, by decide⟩
  have hout : ¬ IsOneOf "UI".toList ["api"] := by
    rw [← isAllowed_iff]
    decide
  obtain ⟨-, hnone, -, -⟩ := violation?_convention ["fix", "Feat"] (some ["ui"]) shouted
  obtain ⟨-, -, hjudged, hsame⟩ := violation?_convention ["fix", "Feat"] (some ["api"]) shouted
  have hrefused := (hjudged (some (.scope "UI" ["api"]))).mpr
    (.scope shoutedMessage "UI".toList ["api"] htext htype rfl rfl hout)
  refine ⟨hline, hnone.mpr ⟨shoutedMessage, htext, htype, hscope⟩, hrefused, ?_⟩
  rw [hsame indented hline, hrefused]
  rfl

end CommitMessage

end MergeGate
