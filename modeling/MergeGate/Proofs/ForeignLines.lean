import MergeGate.Evaluation
import MergeGate.Proofs.CommitConvention
import MergeGate.Proofs.SectionEdges

/-!
# Foreign lines in the wording of a finding

The wording of a finding is meant to be one line, or one line for each commit. But wordings quote
texts of other people: titles, names, the words that a convention allows. If such a text has line
ends, some of its lines stand in the wording on lines of their own. This module says which: a line
that is unlike anything of the program's own, because it has no blank and is too long for an
abbreviated identifier, stands in a wording exactly if it is one of the *foreign* lines of the
finding.

## Conventions

* `laterLines`, `innerLines`: the lines of a text behind its first line, and those between the first
  and the last.
* `Finding.foreignLines`: the lines of a wording that come whole from a text that it quotes.
* `Finding.IsTidy`: what a finding quotes of a line is on one line.
* `Check.foreignLines`: the lines that the findings of a check can take from elsewhere.

## Main results

* `lines_append`, `mem_lines_apart`: the lines of texts that stand one behind the other.
* `mem_lines_message`: **which lines of a wording are foreign.**
* `foreignLines_subset`: the findings of a check are tidy, and where their foreign lines come from.
-/

namespace MergeGate

namespace Text

variable {a b c q l : List Char}

/-! ### Lines of texts that stand one behind the other -/

/-- The lines of a text behind its first line. -/
def laterLines (cs : List Char) : List (List Char) := (lines cs).tail

/-- The lines of a text between its first and its last one. -/
def innerLines (cs : List Char) : List (List Char) := (laterLines cs).dropLast

/-- A text in front of another one: its last line goes on with the first line of the other. -/
theorem lines_append (a b : List Char) :
    ∃ before last first after, lines a = before ++ [last] ∧ lines b = first :: after ∧
      lines (a ++ b) = before ++ (last ++ first) :: after := by
  induction a with
  | nil =>
      obtain ⟨first, after, hb⟩ := List.exists_cons_of_ne_nil (splitAt_ne_nil '\n' b)
      exact ⟨[], [], first, after, rfl, hb, hb⟩
  | cons d a ih =>
      obtain ⟨before, last, first, after, ha, hb, hab⟩ := ih
      rw [lines] at ha hab
      by_cases hd : d = '\n'
      · exact ⟨[] :: before, last, first, after, by simp [lines, splitAt, hd, ha], hb,
          by simp [lines, splitAt, hd, hab]⟩
      · cases before with
        | nil =>
            exact ⟨[], d :: last, first, after, by simp [lines, splitAt, hd, ha], hb,
              by simp [lines, splitAt, hd, hab]⟩
        | cons line before =>
            exact ⟨(d :: line) :: before, last, first, after, by simp [lines, splitAt, hd, ha], hb,
              by simp [lines, splitAt, hd, hab]⟩

/-- A text on one line in front of another one goes before its first line. -/
theorem lines_append_of_not_mem (hb : '\n' ∉ b) (c : List Char) :
    ∃ first after, lines c = first :: after ∧ lines (b ++ c) = (b ++ first) :: after := by
  obtain ⟨before, last, first, after, hb', hc, hbc⟩ := lines_append b c
  rw [lines_of_not_mem hb] at hb'
  cases before with
  | nil =>
      obtain rfl : b = last := (List.cons.inj hb').1
      exact ⟨first, after, hc, hbc⟩
  | cons line before => simp at hb'

/-- A line of a text is some of its characters in order, without line feeds. -/
theorem sublist_of_mem_lines (h : l ∈ lines a) : l.Sublist a ∧ '\n' ∉ l := sublist_of_mem_splitAt h

/-- A text on one line keeps the lines of its neighbours apart: a line without one of its characters
ends before it or starts behind it. -/
theorem mem_lines_apart {d : Char} (hb : '\n' ∉ b) (hd : d ∈ b) (hl : d ∉ l) :
    l ∈ lines (a ++ (b ++ c)) ↔ l ∈ (lines a).dropLast ∨ l ∈ laterLines c := by
  obtain ⟨first, after, hc, hbc⟩ := lines_append_of_not_mem hb c
  obtain ⟨before, last, first', after', ha, hbc', habc⟩ := lines_append a (b ++ c)
  obtain ⟨rfl, rfl⟩ : first' = b ++ first ∧ after' = after := by
    rw [hbc'] at hbc
    exact List.cons.inj hbc
  have hmiddle : l ≠ last ++ (b ++ first) := by
    rintro rfl
    exact hl (by simp [hd])
  simp [habc, ha, laterLines, hc, hmiddle]

/-- Behind a text on one line, a line without one of its characters stands only below the first line
of what follows. -/
theorem mem_lines_behind {d : Char} (hb : '\n' ∉ b) (hd : d ∈ b) (hl : d ∉ l) :
    l ∈ lines (b ++ c) ↔ l ∈ laterLines c := by
  have hapart : l ∈ lines ([] ++ (b ++ c)) ↔ _ := mem_lines_apart hb hd hl
  simpa [lines, splitAt] using hapart

/-- Between two texts on one line each, a line without some of their characters stands only between
the first and the last line of what they enclose. -/
theorem mem_lines_between {d e : Char} (ha : '\n' ∉ a) (hd : d ∈ a) (hl : d ∉ l) (hb : '\n' ∉ b)
    (he : e ∈ b) (hl' : e ∉ l) : l ∈ lines (a ++ (q ++ b)) ↔ l ∈ innerLines q := by
  have hapart : l ∈ lines (a ++ q ++ (b ++ [])) ↔ _ := mem_lines_apart hb he hl'
  rw [List.append_nil, List.append_assoc] at hapart
  obtain ⟨first, after, hq, haq⟩ := lines_append_of_not_mem ha q
  have hfirst : l ≠ a ++ first := by
    rintro rfl
    exact hl (by simp [hd])
  rw [hapart, haq, innerLines, laterLines, laterLines, hq]
  cases after with
  | nil => simp [lines, splitAt]
  | cons line after => simp [lines, splitAt, hfirst]

/-- The lines of joined texts are those of the single ones. -/
theorem lines_join {parts : List String} (h : parts ≠ []) :
    lines (join "\n" parts).toList = parts.flatMap fun part => lines part.toList := by
  induction parts with
  | nil => exact absurd rfl h
  | cons part parts ih =>
      cases parts with
      | nil => simp [join]
      | cons next parts =>
          have hjoin : (join "\n" (part :: next :: parts)).toList =
              part.toList ++ '\n' :: (join "\n" (next :: parts)).toList := by
            simp [join]
          rw [hjoin, lines, splitAt_append_cons, List.flatMap_cons, ← ih (by simp)]
          rfl

/-- A trimmed text is a part of the text. -/
theorem trim_sublist (cs : List Char) : (trim cs).Sublist cs :=
  (List.rdropWhile_prefix _ _).sublist.trans (List.dropWhile_sublist _)

/-- The digits of a number are on one line. -/
theorem lineFeed_not_mem_repr (n : Int) : '\n' ∉ n.repr.toList := by
  have hdigits (m : Nat) : '\n' ∉ Nat.toDigits 10 m := by
    intro h
    have hdigit := Nat.isDigit_of_mem_toDigits (by decide) (by decide) h
    revert hdigit
    decide
  rw [Int.repr_eq_if]
  split <;> simp [hdigits]

end Text

open Text

/-! ### The lines of a wording -/

/-- The words that a convention allows, where a commit has used another one. -/
def CommitFlaw.allowed : CommitFlaw → List String
  | .format => []
  | .type _ allowed | .scope _ allowed => allowed

/-- The lines of a wording that come whole from a text that it quotes: a title, names, the words
that a convention allows, or the reason why commits could not be listed. -/
def Finding.foreignLines : Finding → List (List Char)
  | .noLabels | .noIssueReference => []
  | .tooFewAssignees _ names | .tooFewReviewers _ names => laterLines (join ", " names).toList
  | .commitsUnavailable reason => laterLines reason.toList
  | .commitViolations violations =>
    violations.flatMap fun v => laterLines (join ", " v.flaw.allowed).toList
  | .sectionMissing title | .nothingTicked title | .notAllTicked title | .untickedBelow title _ =>
    innerLines title.toList

/-- The word that a commit has used is on one line. -/
def CommitFlaw.IsTidy : CommitFlaw → Prop
  | .format => True
  | .type used _ | .scope used _ => '\n' ∉ used.toList

/-- What a finding quotes of a line, an item or the word that a commit has used, is on one line. -/
def Finding.IsTidy : Finding → Prop
  | .commitViolations violations => ∀ v ∈ violations, v.flaw.IsTidy
  | .untickedBelow _ item => '\n' ∉ item.toList
  | _ => True

section Wordings

variable {l : List Char}

/-- The subject of a commit is on one line. -/
theorem Commit.lineFeed_not_mem_subject (c : Commit) : '\n' ∉ c.subject.toList := by
  intro h
  rw [subject, String.toList_ofList] at h
  have hline := List.mem_takeWhile_imp ((trim_sublist _).subset h)
  exact absurd hline (by decide)

/-- What is wrong with a commit message ends with the allowed words. -/
theorem CommitFlaw.exists_message_eq {flaw : CommitFlaw} (h : flaw.IsTidy) :
    ∃ lead, flaw.message.toList = lead ++ (join ", " flaw.allowed).toList ∧ '\n' ∉ lead := by
  cases flaw with
  | format => exact ⟨_, (List.append_nil _).symm, by decide⟩
  | type used allowed =>
      refine ⟨"Type \"".toList ++ used.toList ++ "\" is not allowed. Use one of: ".toList, ?_, ?_⟩
      · simp only [message, String.toList_append, CommitFlaw.allowed]
      · have hused : '\n' ∉ used.toList := h
        simp [hused]
  | scope used allowed =>
      refine ⟨"Scope \"".toList ++ used.toList ++ "\" is not allowed. Use one of: ".toList, ?_, ?_⟩
      · simp only [message, String.toList_append, CommitFlaw.allowed]
      · have hused : '\n' ∉ used.toList := h
        simp [hused]

/-- The line of a violation takes its foreign lines from the allowed words. The identifier of a
commit is too short for one. -/
theorem CommitViolation.mem_lines_describe {v : CommitViolation} (hv : v.flaw.IsTidy)
    (hl : ' ' ∉ l) (hlong : 7 < l.length) :
    l ∈ lines ("  • " ++ v.describe).toList ↔ l ∈ laterLines (join ", " v.flaw.allowed).toList := by
  obtain ⟨lead, hlead, htidy⟩ := CommitFlaw.exists_message_eq hv
  have hsubject := v.commit.lineFeed_not_mem_subject
  have htext : ("  • " ++ v.describe).toList =
      ("  • ".toList ++ v.commit.shortId.toList) ++
        ((" - ".toList ++ v.commit.subject.toList ++ " - ".toList ++ lead) ++
          (join ", " v.flaw.allowed).toList) := by
    simp only [describe, String.toList_append, hlead, List.append_assoc]
  have hshort : l ∉ (lines ("  • ".toList ++ v.commit.shortId.toList)).dropLast := by
    intro h
    have hlater := (mem_lines_behind (by decide) (by decide) hl).mp (List.dropLast_subset _ h)
    have hlength := (sublist_of_mem_lines (List.mem_of_mem_tail hlater)).1.length_le
    rw [Commit.shortId, String.toList_ofList] at hlength
    exact absurd (hlength.trans (List.length_take_le 7 _)) (Nat.not_le_of_lt hlong)
  rw [htext, mem_lines_apart (by simp [hsubject, htidy]) (by simp) hl]
  exact or_iff_right hshort

/-- A wording about people takes its foreign lines from their names. -/
theorem mem_lines_people {lead nobody listed : String} (hlead : '\n' ∉ lead.toList)
    (hblank : ' ' ∈ lead.toList) (hnobody : '\n' ∉ nobody.toList) (hlisted : '\n' ∉ listed.toList)
    (hl : ' ' ∉ l) (names : List String) :
    l ∈ lines (lead ++ (if names.isEmpty then nobody else listed ++ join ", " names)).toList ↔
      l ∈ laterLines (join ", " names).toList := by
  rw [String.toList_append]
  cases names with
  | nil =>
      rw [mem_lines_behind hlead hblank hl, laterLines, lines, if_pos List.isEmpty_nil,
        splitAt_of_not_mem hnobody]
      exact Iff.rfl
  | cons name names =>
      rw [List.isEmpty_cons, if_neg Bool.false_ne_true, String.toList_append, ← List.append_assoc]
      exact mem_lines_behind (by simp [hlead, hlisted]) (by simp [hblank]) hl

/-- A wording about a section takes its foreign lines from the title. -/
theorem mem_lines_title {lead rest : String} (hlead : '\n' ∉ lead.toList)
    (hblank : ' ' ∈ lead.toList) (hrest : '\n' ∉ rest.toList) (hblank' : ' ' ∈ rest.toList)
    (hl : ' ' ∉ l) (title : String) :
    l ∈ lines (lead ++ title ++ rest).toList ↔ l ∈ innerLines title.toList := by
  rw [String.toList_append, String.toList_append, List.append_assoc]
  exact mem_lines_between hlead hblank hl hrest hblank' hl

/-- A wording on one line has no line without blanks. -/
theorem not_mem_lines_plain {words : String} (hwords : '\n' ∉ words.toList)
    (hblank : ' ' ∈ words.toList) (hl : ' ' ∉ l) : l ∉ lines words.toList := by
  rw [lines_of_not_mem hwords, List.mem_singleton]
  rintro rfl
  exact hl hblank

/-- **Which lines of a wording are foreign.** A line without blanks that is longer than an
abbreviated identifier stands in a wording exactly if it is one of the foreign lines. -/
theorem Finding.mem_lines_message {f : Finding} (hf : f.IsTidy) (hl : ' ' ∉ l)
    (hlong : 7 < l.length) : l ∈ lines f.message.toList ↔ l ∈ f.foreignLines := by
  cases f with
  | noLabels =>
      exact iff_of_false (not_mem_lines_plain (by decide) (by decide) hl) List.not_mem_nil
  | noIssueReference =>
      have hmessage : Finding.noIssueReference.message.toList =
          "Required issue reference is missing. Use a format like 'Fixes: #123' or ".toList ++
            "'Closes owner/repo#456' in your PR description.".toList := String.toList_append
      rw [hmessage]
      exact mem_lines_behind (by decide) (by decide) hl
  | tooFewAssignees required names =>
      have hnumber := lineFeed_not_mem_repr required
      exact mem_lines_people (by simp [hnumber]) (by simp) (by decide) (by decide) hl names
  | tooFewReviewers required names =>
      have hnumber := lineFeed_not_mem_repr required
      exact mem_lines_people (by simp [hnumber]) (by simp) (by decide) (by decide) hl names
  | commitsUnavailable reason =>
      have hmessage : (Finding.commitsUnavailable reason).message.toList =
          "Failed to validate semantic commits: ".toList ++ reason.toList :=
        String.toList_append
      rw [hmessage]
      exact mem_lines_behind (by decide) (by decide) hl
  | commitViolations violations =>
      have hintro : l ∉ lines
          "The following commits do not follow the semantic commit convention:".toList :=
        not_mem_lines_plain (by decide) (by decide) hl
      have hmessage : lines (Finding.commitViolations violations).message.toList = _ :=
        lines_join (List.cons_ne_nil _ _)
      simp only [hmessage, List.flatMap_cons, List.mem_append, hintro, false_or, List.mem_flatMap,
        List.mem_map, exists_exists_and_eq_and, foreignLines]
      refine exists_congr fun v => and_congr_right fun hv => ?_
      exact CommitViolation.mem_lines_describe (hf v hv) hl hlong
  | sectionMissing title =>
      exact mem_lines_title (by decide) (by decide) (by decide) (by decide) hl title
  | nothingTicked title =>
      exact mem_lines_title (by decide) (by decide) (by decide) (by decide) hl title
  | notAllTicked title =>
      exact mem_lines_title (by decide) (by decide) (by decide) (by decide) hl title
  | untickedBelow title item =>
      have hitem : '\n' ∉ item.toList := hf
      have hmessage : (Finding.untickedBelow title item).message = "In \"" ++ title ++
          "\" section, \"" ++ item ++ "\" is checked but has unchecked sub-items" := rfl
      simp only [hmessage, String.toList_append, List.append_assoc]
      exact mem_lines_between (by decide) (by decide) hl (by simp [hitem]) (by simp) hl

end Wordings

/-! ### The findings of a check -/

/-- The lines that the findings of a check can take from elsewhere. -/
def Check.foreignLines (pr : PullRequest) (source : Option CommitSource) :
    Check → List (List Char)
  | .labels | .issueReference => []
  | .assignees _ => laterLines (join ", " pr.assignees).toList
  | .reviewers _ => laterLines (join ", " pr.reviewRequests).toList
  | .commits rule =>
    match (gatherCommits pr source).result with
    | .ok _ =>
      laterLines (join ", " rule.types).toList ++
        laterLines (join ", " (rule.scopes.getD [])).toList
    | .error fault => laterLines fault.message.toList
  | .sectionList title _ => innerLines title.toList

variable {f : Finding}

/-- The text of a checkbox is on one line. -/
theorem Checkbox.lineFeed_not_mem_text {b : Checkbox} {content : String}
    (h : b ∈ Checkbox.parse content) : '\n' ∉ b.text.toList := by
  obtain ⟨line, hline, hb⟩ := List.mem_filterMap.mp h
  obtain ⟨blanks, mark, rest, hform, rfl⟩ := ofLine?_eq_some_iff.mp hb
  have hsub : (trim rest).Sublist line := calc
    (trim rest).Sublist rest := trim_sublist rest
    List.Sublist rest (opening mark ++ rest) := List.sublist_append_right _ _
    List.Sublist _ (blanks ++ (opening mark ++ rest)) := List.sublist_append_right _ _
    _ = line := hform.line_eq.symm
  rw [String.toList_ofList]
  exact fun hmem => (sublist_of_mem_lines hline).2 (hsub.subset hmem)

/-- Nesting finds items with items below them that are not ticked. -/
theorem Nesting.exists_item_of_mem {title : String} {items : List Checkbox}
    (h : f ∈ findings title items) : ∃ item ∈ items, f = .untickedBelow title item.text := by
  induction items with
  | nil => cases h
  | cons item items ih =>
      rw [findings] at h
      split at h
      · rcases List.mem_cons.mp h with rfl | h
        · exact ⟨item, List.mem_cons_self, rfl⟩
        · exact (ih h).imp fun _ hother => hother.imp_left (List.mem_cons_of_mem item)
      · exact (ih h).imp fun _ hother => hother.imp_left (List.mem_cons_of_mem item)

/-- What is found in a section is tidy, and its foreign lines are those of the title. -/
theorem SectionRule.tidy_of_mem_judgeBody {rule : SectionRule} {title body : String}
    (h : f ∈ rule.judgeBody title body) : f.IsTidy ∧ f.foreignLines = innerLines title.toList := by
  rw [judgeBody] at h
  split at h
  · cases List.mem_singleton.mp h
    exact ⟨trivial, rfl⟩
  · rw [judgeContent] at h
    split at h
    · cases h
    · rcases List.mem_append.mp h with h | h
      · unfold tickingFindings at h
        split at h
        · cases h
        · split at h
          · cases h
          · cases List.mem_singleton.mp h
            exact ⟨trivial, rfl⟩
        · split at h
          · cases h
          · cases List.mem_singleton.mp h
            exact ⟨trivial, rfl⟩
      · split at h
        · obtain ⟨item, hitem, rfl⟩ := Nesting.exists_item_of_mem h
          exact ⟨Checkbox.lineFeed_not_mem_text hitem, rfl⟩
        · cases h

namespace CommitMessage

/-- What is wrong with a commit message is tidy, and the words that it lists are those of the
rule. -/
theorem tidy_of_flaw? {types : List String} {scopes : Option (List String)} {commit : Commit}
    {flaw : CommitFlaw} (h : flaw? types scopes commit = some flaw) :
    flaw.IsTidy ∧ (flaw.allowed = [] ∨ flaw.allowed = types ∨ scopes = some flaw.allowed) := by
  cases flaw?_eq_iff.mp h with
  | format => exact ⟨trivial, .inl rfl⟩
  | type m =>
      refine ⟨fun hmem => ?_, .inr (.inl rfl)⟩
      rw [String.toList_ofList] at hmem
      exact absurd (m.type_letters _ hmem) (by decide)
  | scope m s allowed _ _ hs hscopes =>
      refine ⟨fun hmem => ?_, .inr (.inr hscopes)⟩
      rw [String.toList_ofList] at hmem
      exact absurd (m.scope_characters s hs _ hmem) (by decide)

end CommitMessage

/-- What the convention finds wrong with commits is tidy, and it lists the words of the rule. -/
theorem CommitRule.tidy_of_mem_judge {rule : CommitRule} {commits : List Commit}
    (h : f ∈ rule.judge commits) : f.IsTidy ∧ f.foreignLines ⊆
      laterLines (join ", " rule.types).toList ++
        laterLines (join ", " (rule.scopes.getD [])).toList := by
  rw [judge] at h
  split at h
  · cases h
  · cases List.mem_singleton.mp h
    have hflaw : ∀ v ∈ commits.filterMap (CommitMessage.violation? rule.types rule.scopes),
        v.flaw.IsTidy ∧ (v.flaw.allowed = [] ∨ v.flaw.allowed = rule.types ∨
          rule.scopes = some v.flaw.allowed) := by
      intro v hv
      obtain ⟨commit, -, hviolation⟩ := List.mem_filterMap.mp hv
      obtain ⟨flaw, hflaw, rfl⟩ := Option.map_eq_some_iff.mp hviolation
      exact CommitMessage.tidy_of_flaw? hflaw
    refine ⟨fun v hv => (hflaw v hv).1, fun l hl => ?_⟩
    obtain ⟨v, hv, hl⟩ := List.mem_flatMap.mp hl
    rcases (hflaw v hv).2 with hnone | htypes | hscopes
    · rw [hnone] at hl
      cases hl
    · rw [htypes] at hl
      exact List.mem_append_left _ hl
    · rw [hscopes]
      exact List.mem_append_right _ hl

/-- **Where the foreign lines of a finding come from**: the findings of a check are tidy, and they
take their foreign lines from its rule, the people, or the reason why commits could not be
listed. -/
theorem foreignLines_subset {check : Check} {pr : PullRequest} {source : Option CommitSource}
    {found : List Finding} (h : (check.run pr source).result = .ok found) (hf : f ∈ found) :
    f.IsTidy ∧ f.foreignLines ⊆ check.foreignLines pr source := by
  cases check with
  | labels =>
      cases h
      rw [People.labelFindings, List.mem_ite_nil_right] at hf
      cases List.mem_singleton.mp hf.2
      exact ⟨trivial, List.Subset.refl _⟩
  | assignees required =>
      cases Finding.eq_of_worded h
      rw [People.assigneeFindings, List.mem_ite_nil_left] at hf
      cases List.mem_singleton.mp hf.2
      exact ⟨trivial, List.Subset.refl _⟩
  | reviewers required =>
      cases Finding.eq_of_worded h
      rw [People.reviewerFindings, List.mem_ite_nil_left] at hf
      cases List.mem_singleton.mp hf.2
      exact ⟨trivial, List.Subset.refl _⟩
  | issueReference =>
      cases h
      rw [IssueReference.findings, List.mem_ite_nil_left] at hf
      cases List.mem_singleton.mp hf.2
      exact ⟨trivial, List.Subset.refl _⟩
  | commits rule =>
      have hfindings : (rule.findings pr source).result = .ok found := h
      rw [Check.foreignLines]
      cases hgathered : (gatherCommits pr source).result with
      | ok commits =>
          simp only [CommitRule.findings, hgathered] at hfindings
          cases hfindings
          exact CommitRule.tidy_of_mem_judge hf
      | error fault =>
          simp only [CommitRule.findings, hgathered] at hfindings
          split at hfindings
          · cases hfindings
            cases List.mem_singleton.mp hf
            exact ⟨trivial, List.Subset.refl _⟩
          · cases hfindings
  | sectionList title rule =>
      cases h
      obtain ⟨htidy, hlines⟩ := SectionRule.tidy_of_mem_judgeBody hf
      exact ⟨htidy, hlines ▸ List.Subset.refl _⟩

end MergeGate
