import MergeGate.Proofs.ForeignLines

/-!
# The report on the commits of a pull request

The check of commits judges the commits that the pull request holds, if they are all there, and
otherwise asks whoever lists commits, once. All commits that break the convention together are one
error, which has a line for each of them behind an opening line. This module says that the error can
be read back: its lines, cut at the line feeds, are the opening line and one bullet for each commit
that breaks the convention, in the order of the commits.

A bullet is one line because nothing that it quotes has a line feed. The subject is the trimmed first
line of a message and the word that a commit uses is made of letters; that leaves the identifier and
the words of the rule, and of these it has to be assumed.

## Conventions

* `PullRequest.Holds`: a pull request holds its commits, and as many as it reports.
* `CommitRule.Accepts`: a commit follows the convention of a rule.
* `CommitRule.bullet`: the line of a commit in the error.
* `CommitRule.HasUnbrokenWords`: the words of a rule have no line feed.
* `CommitRule.Reports`: what is said of commits.

## Main results

* `gatherCommits_of_holds`, `gatherCommits_of_not_holds`: whose commits are judged.
* `CommitRule.filterMap_violation?`: the violations are those of the commits that are not accepted.
* `CommitRule.lines_violations`: **the lines of the error.**
* `CommitRule.findings_report`: whose commits are judged, and what is said of them.
-/

namespace MergeGate

open Text CommitMessage

variable {pr : PullRequest} {source : Option CommitSource} {rule : CommitRule}
  {commits : List Commit} {c : Commit}

/-! ### Whose commits are judged -/

/-- A pull request holds its commits, and as many as it reports. -/
def PullRequest.Holds (pr : PullRequest) (commits : List Commit) : Prop :=
  pr.commits = some commits ∧ pr.commitCount = some (commits.length : Int)

/-- If a pull request holds its commits, these are judged, and nobody is asked. -/
theorem gatherCommits_of_holds (h : pr.Holds commits) (source : Option CommitSource) :
    gatherCommits pr source = ⟨.ok commits, []⟩ := by
  obtain ⟨hcommits, hcount⟩ := h
  simp [gatherCommits, hcommits, hcount]

/-- Otherwise whoever lists commits is asked once, if there is anyone. -/
theorem gatherCommits_of_not_holds (h : ¬ ∃ commits, pr.Holds commits)
    (source : Option CommitSource) : gatherCommits pr source =
      match source with
      | none => ⟨.error .noCommitSource, []⟩
      | some list => ⟨list pr.number, [pr.number]⟩ := by
  unfold gatherCommits
  cases hcommits : pr.commits with
  | none => cases source <;> rfl
  | some commits =>
      cases hcount : pr.commitCount with
      | none => cases source <;> rfl
      | some count =>
          have hdiffers : ¬ (commits.length : Int) = count := by
            rintro rfl
            exact h ⟨commits, hcommits, hcount⟩
          simp only [if_neg hdiffers]
          cases source <;> rfl

/-! ### Which commits are reported -/

namespace CommitRule

/-- A commit follows the convention of a rule: its first line is written from parts with a type and
a scope in use. -/
def Accepts (rule : CommitRule) (c : Commit) : Prop :=
  ∃ m : Message, m.text = trim c.firstLine ∧ m.TypeAllowed rule.types ∧ m.ScopeAllowed rule.scopes

instance (rule : CommitRule) (c : Commit) : Decidable (rule.Accepts c) :=
  decidable_of_iff (violation? rule.types rule.scopes c = none) violation?_eq_none_iff

/-- The reason why a commit breaks the convention of a rule, in words. -/
def reason (rule : CommitRule) (c : Commit) : String :=
  ((flaw? rule.types rule.scopes c).map CommitFlaw.message).getD ""

/-- The line of a commit that breaks the convention: its identifier, its subject and the reason. -/
def bullet (rule : CommitRule) (c : Commit) : String :=
  "  • " ++ c.shortId ++ " - " ++ c.subject ++ " - " ++ rule.reason c

/-- The line above the commits. -/
def opening : String :=
  "The following commits do not follow the semantic commit convention:"

/-- The commits that break the convention. -/
def refused (rule : CommitRule) (commits : List Commit) : List Commit :=
  commits.filter fun c => ¬ rule.Accepts c

/-- A commit that is not accepted has a flaw, which is the reason that is given. -/
theorem exists_flaw (h : ¬ rule.Accepts c) : ∃ flaw, flaw? rule.types rule.scopes c = some flaw ∧
    violation? rule.types rule.scopes c = some ⟨c, flaw⟩ ∧ rule.reason c = flaw.message := by
  cases hflaw : flaw? rule.types rule.scopes c with
  | none => exact absurd (violation?_eq_none_iff.mp (by simp [violation?, hflaw])) h
  | some flaw => exact ⟨flaw, rfl, by simp [violation?, hflaw], by simp [reason, hflaw]⟩

/-- The violations are those of the commits that are not accepted, each once and in order, and their
lines are the bullets of these. -/
theorem filterMap_violation? (rule : CommitRule) (commits : List Commit) :
    (commits.filterMap (violation? rule.types rule.scopes)).map
        (fun v => "  • " ++ v.describe) =
      (rule.refused commits).map rule.bullet := by
  induction commits with
  | nil => rfl
  | cons c commits ih =>
      by_cases hc : rule.Accepts c
      · have hnone : violation? rule.types rule.scopes c = none := violation?_eq_none_iff.mpr hc
        rw [List.filterMap_cons_none hnone, ih, refused, refused,
          List.filter_cons_of_neg (by simpa using hc)]
      · obtain ⟨flaw, -, hsome, hreason⟩ := exists_flaw hc
        rw [List.filterMap_cons_some hsome, refused, List.filter_cons_of_pos (by simpa using hc),
          List.map_cons, List.map_cons, ih, refused]
        simp [bullet, CommitViolation.describe, hreason, String.append_assoc]

/-- There are no violations exactly if all commits are accepted. -/
theorem filterMap_violation?_eq_nil_iff :
    commits.filterMap (violation? rule.types rule.scopes) = [] ↔ ∀ c ∈ commits, rule.Accepts c := by
  rw [List.filterMap_eq_nil_iff]
  exact forall₂_congr fun c _ => violation?_eq_none_iff

/-- Nothing is found wrong if all commits are accepted. -/
theorem judge_of_accepts (h : ∀ c ∈ commits, rule.Accepts c) : rule.judge commits = [] := by
  rw [judge, filterMap_violation?_eq_nil_iff.mpr h]

/-- Otherwise one thing is found wrong, with all violations. -/
theorem judge_of_not_accepts (h : ¬ ∀ c ∈ commits, rule.Accepts c) : rule.judge commits =
    [.commitViolations (commits.filterMap (violation? rule.types rule.scopes))] := by
  rw [← filterMap_violation?_eq_nil_iff] at h
  rw [judge]
  split
  · next hnil => exact absurd hnil h
  · rfl

/-! ### The lines of the error -/

/-- The words of a rule have no line feed. -/
def HasUnbrokenWords (rule : CommitRule) : Prop :=
  (∀ word ∈ rule.types, '\n' ∉ word.toList) ∧
    ∀ scopes ∈ rule.scopes, ∀ word ∈ scopes, '\n' ∉ word.toList

/-- Words without line feeds have none when they are joined. -/
theorem lineFeed_not_mem_join {sep : String} (hsep : '\n' ∉ sep.toList) {words : List String}
    (h : ∀ word ∈ words, '\n' ∉ word.toList) : '\n' ∉ (join sep words).toList := by
  induction words with
  | nil => simp [join]
  | cons word words ih =>
      obtain ⟨hword, hwords⟩ := List.forall_mem_cons.mp h
      cases words with
      | nil => simpa [join] using hword
      | cons next words =>
          have hjoin : join sep (word :: next :: words) = word ++ sep ++ join sep (next :: words) :=
            rfl
          rw [hjoin]
          simp [hword, hsep, ih hwords]

/-- The bullet of a commit is on one line. -/
theorem lineFeed_not_mem_bullet (hrule : rule.HasUnbrokenWords) (hsha : '\n' ∉ c.sha.toList)
    (hc : ¬ rule.Accepts c) : '\n' ∉ (rule.bullet c).toList := by
  obtain ⟨flaw, hflaw, -, hreason⟩ := exists_flaw hc
  obtain ⟨htidy, hallowed⟩ := tidy_of_flaw? hflaw
  obtain ⟨lead, hmessage, hlead⟩ := CommitFlaw.exists_message_eq htidy
  have hwords : ∀ word ∈ flaw.allowed, '\n' ∉ word.toList := by
    rcases hallowed with hnone | htypes | hscopes
    · simp [hnone]
    · rw [htypes]
      exact hrule.1
    · exact hrule.2 _ hscopes
  have hjoined := lineFeed_not_mem_join (by decide : '\n' ∉ ", ".toList) hwords
  have hid : '\n' ∉ c.shortId.toList := by
    rw [Commit.shortId, String.toList_ofList]
    exact fun hmem => hsha (List.mem_of_mem_take hmem)
  simp [bullet, hreason, hmessage, hid, c.lineFeed_not_mem_subject, hlead, hjoined]

/-- The wording of violations is the opening line and the lines of the violations, joined. -/
theorem message_commitViolations (violations : List CommitViolation) :
    (Finding.commitViolations violations).message =
      join "\n" (opening :: violations.map fun v => "  • " ++ v.describe) := rfl

/-- **The lines of the error**: the opening line and the bullets of the commits that are not
accepted, in order. -/
theorem lines_violations (hrule : rule.HasUnbrokenWords)
    (hsha : ∀ c ∈ commits, '\n' ∉ c.sha.toList) :
    lines (Finding.commitViolations
        (commits.filterMap (violation? rule.types rule.scopes))).message.toList =
      (opening :: (rule.refused commits).map rule.bullet).map String.toList := by
  have hline : ∀ part ∈ opening :: (rule.refused commits).map rule.bullet,
      lines part.toList = [part.toList] := by
    refine List.forall_mem_cons.mpr ⟨splitAt_of_not_mem (by decide), fun part hpart => ?_⟩
    obtain ⟨c, hc, rfl⟩ := List.mem_map.mp hpart
    obtain ⟨hmem, hrefused⟩ := List.mem_filter.mp hc
    exact splitAt_of_not_mem
      (lineFeed_not_mem_bullet hrule (hsha c hmem) (by simpa using hrefused))
  rw [message_commitViolations, filterMap_violation?, lines_join (List.cons_ne_nil _ _),
    List.flatMap_congr hline, ← List.map_eq_flatMap]

/-! ### The report -/

/-- What is said of commits: nothing if all are accepted, and otherwise one error. If nothing that is
quoted goes over a line end, its lines are the opening line and the bullets of the commits that are
not accepted, in order. -/
def Reports (rule : CommitRule) (commits : List Commit) (errors : List String) : Prop :=
  ((∀ c ∈ commits, rule.Accepts c) → errors = []) ∧
  ((¬ ∀ c ∈ commits, rule.Accepts c) → ∃ error, errors = [error] ∧
    (rule.HasUnbrokenWords → (∀ c ∈ commits, '\n' ∉ c.sha.toList) →
      lines error.toList = (opening :: (rule.refused commits).map rule.bullet).map String.toList))

/-- The wording of what is found wrong with commits says this of them. -/
theorem reports_judge (rule : CommitRule) (commits : List Commit) :
    rule.Reports commits (Finding.messages (rule.judge commits)) := by
  refine ⟨fun haccepts => ?_, fun hrefused => ?_⟩
  · rw [judge_of_accepts haccepts]
    rfl
  · rw [judge_of_not_accepts hrefused]
    exact ⟨_, rfl, lines_violations⟩

/-- The messages of a check of commits. -/
def errors (rule : CommitRule) (pr : PullRequest) (source : Option CommitSource) :
    Except Fault (List String) :=
  (rule.findings pr source).result.map Finding.messages

/-- Commits that are gathered are reported on. -/
theorem reports_of_gathered (h : (gatherCommits pr source).result = .ok commits) :
    ∃ found, rule.errors pr source = .ok found ∧ rule.Reports commits found := by
  refine ⟨_, ?_, reports_judge rule commits⟩
  simp only [errors, findings, h]
  rfl

/-- A fault in gathering commits is an error if it is reported, and otherwise the end. -/
theorem errors_of_fault {fault : Fault} (h : (gatherCommits pr source).result = .error fault) :
    rule.errors pr source =
      if fault.isReported then .ok ["Failed to validate semantic commits: " ++ fault.message]
      else .error fault := by
  simp only [errors, findings, h]
  split <;> rfl

/-- Whoever lists commits is asked as often as commits are gathered. -/
theorem asked_findings (rule : CommitRule) (pr : PullRequest) (source : Option CommitSource) :
    (rule.findings pr source).asked = (gatherCommits pr source).asked := by
  unfold findings
  dsimp only
  split
  · rfl
  · split <;> rfl

/-- **The report on the commits of a pull request.** If it holds its commits, these are judged and
nobody is asked. Otherwise whoever lists commits is asked for them, once, and these are judged. If
there is no one to ask, or if they report a fault, this is the only error. -/
theorem findings_report (rule : CommitRule) (pr : PullRequest) (source : Option CommitSource) :
    (∀ commits, pr.Holds commits → (rule.findings pr source).asked = [] ∧
      ∃ found, rule.errors pr source = .ok found ∧ rule.Reports commits found) ∧
    ((¬ ∃ commits, pr.Holds commits) →
      (source = none → (rule.findings pr source).asked = [] ∧
        rule.errors pr source = .ok ["Failed to validate semantic commits: " ++
          "no commit source is available to list pull request commits"]) ∧
      ∀ list, source = some list → (rule.findings pr source).asked = [pr.number] ∧
        (∀ commits, list pr.number = .ok commits →
          ∃ found, rule.errors pr source = .ok found ∧ rule.Reports commits found) ∧
        ∀ fault, list pr.number = .error fault → rule.errors pr source =
          if fault.isReported then .ok ["Failed to validate semantic commits: " ++ fault.message]
          else .error fault) := by
  rw [asked_findings]
  refine ⟨fun commits hholds => ?_, fun hnone => ⟨?_, ?_⟩⟩
  · have hgathered := gatherCommits_of_holds hholds source
    exact ⟨by rw [hgathered], reports_of_gathered (by rw [hgathered])⟩
  · rintro rfl
    have hgathered := gatherCommits_of_not_holds hnone none
    refine ⟨by rw [hgathered], ?_⟩
    rw [errors_of_fault (by rw [hgathered])]
    rfl
  · rintro list rfl
    have hgathered : gatherCommits pr (some list) = ⟨list pr.number, [pr.number]⟩ :=
      gatherCommits_of_not_holds hnone (some list)
    refine ⟨by rw [hgathered], fun commits hlist => ?_, fun fault hlist => ?_⟩
    · exact reports_of_gathered (by rw [hgathered, hlist])
    · exact errors_of_fault (by rw [hgathered, hlist])

/-- Commits of which the second breaks the convention and the third uses a type that is not in use. -/
def mixedCommits : List Commit :=
  [⟨"0123456789", "feat: add"⟩, ⟨"1123456789", "add\n\nmore"⟩, ⟨"2123456789", "fix(ui): mend"⟩,
    ⟨"3123456789", "Feat(ui)!: change"⟩]

/-- A pull request that holds one of these commits and reports four. -/
def clippedRequest : PullRequest where
  number := 7
  commitCount := some 4
  commits := some (mixedCommits.take 1)

/-- The commits of that pull request are asked for, and two of them are reported. Were all of them
held, the error would be the same and nobody asked. -/
theorem findings_report_mixed :
    let rule : CommitRule := { types := ["feat", "docs"] }
    let source : CommitSource := fun _ => .ok mixedCommits
    let whole := { clippedRequest with commits := some mixedCommits }
    (rule.findings clippedRequest source).asked = [7] ∧ (rule.findings whole source).asked = [] ∧
    ∀ pr ∈ [clippedRequest, whole], ∃ error, rule.errors pr source = .ok [error] ∧
      lines error.toList = [
        "The following commits do not follow the semantic commit convention:",
        "  • 1123456 - add - Does not follow semantic format: type(scope): subject",
        "  • 2123456 - fix(ui): mend - Type \"fix\" is not allowed. Use one of: feat, docs"].map
          String.toList := by
  intro rule source whole
  have hholds : whole.Holds mixedCommits := ⟨rfl, rfl⟩
  have hclipped : ¬ ∃ commits, clippedRequest.Holds commits := by
    rintro ⟨commits, hcommits, hcount⟩
    cases hcommits
    exact absurd hcount (by decide)
  have hunbroken : rule.HasUnbrokenWords := ⟨by decide, nofun⟩
  have hmixed : ¬ ∀ c ∈ mixedCommits, rule.Accepts c := by decide +kernel
  have hbullets : (rule.refused mixedCommits).map rule.bullet = [
      "  • 1123456 - add - Does not follow semantic format: type(scope): subject",
      "  • 2123456 - fix(ui): mend - Type \"fix\" is not allowed. Use one of: feat, docs"] := by
    decide +kernel
  obtain ⟨hheld, -⟩ := findings_report rule whole source
  obtain ⟨hnobody, foundWhole, hwhole, hreports⟩ := hheld mixedCommits hholds
  obtain ⟨-, hasks⟩ := findings_report rule clippedRequest source
  obtain ⟨hasked, hlisted, -⟩ := (hasks hclipped).2 source rfl
  obtain ⟨foundClipped, hfound, hreports'⟩ := hlisted mixedCommits rfl
  refine ⟨hasked, hnobody, ?_⟩
  have hlines : ∀ pr found, rule.errors pr source = .ok found → rule.Reports mixedCommits found →
      ∃ error, rule.errors pr source = .ok [error] ∧ lines error.toList =
        (opening :: (rule.refused mixedCommits).map rule.bullet).map String.toList := by
    intro pr found hpr hsaid
    obtain ⟨error, rfl, hlines⟩ := hsaid.2 hmixed
    exact ⟨error, hpr, hlines hunbroken (by decide)⟩
  rw [hbullets] at hlines
  exact List.forall_mem_cons.mpr ⟨hlines _ _ hfound hreports',
    List.forall_mem_singleton.mpr (hlines _ _ hwhole hreports)⟩

end CommitRule

end MergeGate
