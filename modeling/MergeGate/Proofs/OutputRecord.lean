import MergeGate.Proofs.ForeignLines
import MergeGate.Proofs.StepReport
import MergeGate.Proofs.Utf8Text

/-!
# Reading the record of a step

The report of a step is added to the file of step outputs, which is read line by line: a line
assigns a value to a name, or it opens a block of lines that ends at the first line with the block's
delimiter. The errors of a report stand in such a block, and its delimiter is a fixed word. This
module says when the record is read as what was written: exactly if no line of an error is that
word. A wording has such a line only if it quotes a text that does, so that a report of texts on one
line is always read back. A title is such a text, and the author of a pull request may choose it:
one with the delimiter on a line of its own closes the block and goes on with assignments of its
own.

## Conventions

* `StepOutput.read?`, `StepOutput.readBytes?`: the assignments in a text of step outputs and in its
  bytes.
* `Report.ReadsBack`: the record of a report is read as the result and the errors.

## Main results

* `readLines_block`: a block is read up to the first line with its delimiter.
* `lines_stepOutput`: the lines of a record.
* `readsBack_iff`: a record is read as what was written exactly if no line of an error closes its
  block; `read?_of_closed` is what is read otherwise.
* `run_record_readsBack_iff`: **which runs leave a record that is read as what was written.**
-/

namespace MergeGate

open Text

/-! ### Reading step outputs -/

namespace StepOutput

/-- A value that is assigned to a name. -/
structure Assignment where
  name : String
  value : String
deriving Repr, DecidableEq

/-- A block that is being read: its name, its delimiter and its lines so far. -/
structure Block where
  name : String
  delimiter : List Char
  lines : List (List Char)

/-- The assignment that a block makes. -/
def Block.assignment (b : Block) : Assignment :=
  ⟨b.name, String.ofList (joinWith ['\n'] b.lines)⟩

/-- The name that a line starts with, and behind it the value after an equals sign or the delimiter
after two less-than signs. -/
def nameIn? : List Char → Option (List Char × (List Char ⊕ List Char))
  | [] => none
  | '=' :: rest => some ([], .inl rest)
  | '<' :: '<' :: rest => some ([], .inr rest)
  | c :: rest => (nameIn? rest).map fun found => (c :: found.1, found.2)

/-- The assignments in lines of step outputs, behind the lines of a block that is open. Outside a
block empty lines count for nothing. -/
def readLines : Option Block → List (List Char) → Option (List Assignment)
  | none, [] => some []
  | some _, [] => none
  | some b, line :: rest =>
    if line = b.delimiter then (readLines none rest).map (b.assignment :: ·)
    else readLines (some { b with lines := b.lines ++ [line] }) rest
  | none, line :: rest =>
    if line.isEmpty then readLines none rest
    else
      match nameIn? line with
      | none => none
      | some (name, .inl value) =>
        (readLines none rest).map (⟨String.ofList name, String.ofList value⟩ :: ·)
      | some (name, .inr delimiter) => readLines (some ⟨String.ofList name, delimiter, []⟩) rest

/-- The assignments in a text of step outputs. -/
def read? (cs : List Char) : Option (List Assignment) := readLines none (lines cs)

/-- The assignments in the bytes of step outputs. -/
def readBytes? (bytes : List UInt8) : Option (List Assignment) := (decodeUtf8? bytes).bind read?

/-- **A block is read up to the first line with its delimiter.** -/
theorem readLines_block {b : Block} {inside : List (List Char)} (h : b.delimiter ∉ inside)
    (rest : List (List Char)) :
    readLines (some b) (inside ++ b.delimiter :: rest) =
      (readLines none rest).map ({ b with lines := b.lines ++ inside }.assignment :: ·) := by
  induction inside generalizing b with
  | nil => rw [List.nil_append, readLines, if_pos rfl, List.append_nil]
  | cons line inside ih =>
      rw [List.mem_cons, not_or] at h
      have hline : line ≠ b.delimiter := fun heq => h.1 heq.symm
      have hrest := ih (b := { b with lines := b.lines ++ [line] }) h.2
      rw [List.cons_append, readLines, if_neg hline, hrest, List.append_assoc,
        List.singleton_append]

/-- The delimiter of the block of errors. -/
def delimiter : List Char := ['P', 'R', 'C', 'H', 'E', 'C', 'K', '_', 'E', 'O', 'F']

/-- The block of errors before its first line. -/
def errorBlock : Block := ⟨"validation-errors", delimiter, []⟩

end StepOutput

open StepOutput

/-! ### The record of a report -/

namespace Report

variable {r : Report}

/-- The word for whether a pull request satisfies the rules. -/
def verdict (r : Report) : String := if r.overallPassed then "passed" else "failed"

/-- The text of all errors, each on lines of its own. -/
def errorText (r : Report) : String := join "\n" r.errors

/-- The bytes of a record. -/
def recordBytes (r : Report) : List UInt8 := encodeUtf8 r.stepOutput.toList

/-- The record of a report is read as the result and the errors. -/
def ReadsBack (r : Report) : Prop :=
  readBytes? r.recordBytes =
    some [⟨"validation-result", r.verdict⟩, ⟨"validation-errors", r.errorText⟩]

/-- The bytes of a record are read as its text. -/
theorem readBytes?_recordBytes (r : Report) :
    readBytes? r.recordBytes = read? r.stepOutput.toList := by
  rw [readBytes?, recordBytes, decodeUtf8?_encodeUtf8, Option.bind_some]

/-- The lines of a record: the result, the opening of a block, the lines of the errors, and the
delimiter. -/
theorem lines_stepOutput (r : Report) : lines r.stepOutput.toList =
    ("validation-result=" ++ r.verdict).toList :: "validation-errors<<PRCHECK_EOF".toList ::
      (lines r.errorText.toList ++ [delimiter, []]) := by
  have htext : r.stepOutput.toList = ("validation-result=" ++ r.verdict).toList ++ '\n' ::
      ("validation-errors<<PRCHECK_EOF".toList ++ '\n' ::
        (r.errorText.toList ++ '\n' :: (delimiter ++ '\n' :: []))) := by
    have hbreak : "\n".toList = ['\n'] := rfl
    have hopening : "validation-errors<<PRCHECK_EOF\n".toList =
        "validation-errors<<PRCHECK_EOF".toList ++ ['\n'] := by decide
    have hclosing : "\nPRCHECK_EOF\n".toList = '\n' :: (delimiter ++ ['\n']) := by decide
    unfold stepOutput verdict errorText
    simp only [String.toList_append, hbreak, hopening, hclosing, List.append_assoc,
      List.cons_append, List.nil_append]
  have hverdict : '\n' ∉ ("validation-result=" ++ r.verdict).toList := by
    rw [verdict]
    split <;> decide
  have hopening : '\n' ∉ "validation-errors<<PRCHECK_EOF".toList := by decide
  have hdelimiter : '\n' ∉ delimiter := by decide
  rw [htext, lines, splitAt_append_cons, splitAt_of_not_mem hverdict, splitAt_append_cons,
    splitAt_of_not_mem hopening, splitAt_append_cons, splitAt_append_cons,
    splitAt_of_not_mem hdelimiter]
  rfl

/-- The record of a report is its result and what is read from the block of errors on. -/
theorem read?_stepOutput (r : Report) : read? r.stepOutput.toList =
    (readLines (some errorBlock) (lines r.errorText.toList ++ [delimiter, []])).map
      (⟨"validation-result", r.verdict⟩ :: ·) := by
  rw [read?, lines_stepOutput, verdict]
  split <;> rfl

/-- An error with the delimiter on a line of its own closes the block there, and the lines behind it
are read as further assignments. -/
theorem read?_of_closed {before after : List (List Char)}
    (hlines : lines r.errorText.toList = before ++ delimiter :: after)
    (hbefore : delimiter ∉ before) :
    read? r.stepOutput.toList = (readLines none (after ++ [delimiter, []])).map fun others =>
      ⟨"validation-result", r.verdict⟩ ::
        ⟨"validation-errors", String.ofList (joinWith ['\n'] before)⟩ :: others := by
  have hblock := readLines_block (b := errorBlock) hbefore (after ++ [delimiter, []])
  rw [read?_stepOutput, hlines, List.append_assoc, List.cons_append]
  exact (congrArg _ hblock).trans (Option.map_map _ _ _)

/-- A record is read as what was written exactly if no line of the errors is the delimiter. -/
theorem readsBack_iff_lines : r.ReadsBack ↔ delimiter ∉ lines r.errorText.toList := by
  constructor
  · intro hreads hmem
    -- The block closes at the first delimiter, so that its value is shorter than the errors.
    obtain ⟨before, after, hlines, hbefore⟩ := List.eq_append_cons_of_mem hmem
    rw [ReadsBack, readBytes?_recordBytes, read?_of_closed hlines hbefore,
      Option.map_eq_some_iff] at hreads
    obtain ⟨others, -, hothers⟩ := hreads
    have hvalue : String.ofList (joinWith ['\n'] before) = r.errorText :=
      congrArg Assignment.value (List.cons.inj (List.cons.inj hothers).2).1
    have hparts : ∀ part ∈ before, '\n' ∉ part := by
      intro part hpart
      have hline : part ∈ lines r.errorText.toList := by
        rw [hlines]
        exact List.mem_append_left _ hpart
      exact (sublist_of_mem_lines hline).2
    rw [← hvalue, String.toList_ofList] at hlines
    cases before with
    | nil => cases hlines
    | cons line before =>
        rw [lines, splitAt_joinWith (by simp) hparts] at hlines
        simp at hlines
  · intro h
    have hblock := readLines_block (b := errorBlock) h [[]]
    have hvalue : { errorBlock with lines := [] ++ lines r.errorText.toList }.assignment =
        ⟨"validation-errors", r.errorText⟩ := by
      rw [Block.assignment, List.nil_append, lines, joinWith_splitAt, String.ofList_toList]
      rfl
    rw [ReadsBack, readBytes?_recordBytes, read?_stepOutput, ← hvalue]
    exact congrArg _ hblock

/-- **A record is read as what was written exactly if no line of an error is the delimiter.** -/
theorem readsBack_iff : r.ReadsBack ↔ ∀ error ∈ r.errors, delimiter ∉ lines error.toList := by
  rw [readsBack_iff_lines, errorText]
  by_cases hnone : r.errors = []
  · rw [hnone]
    exact iff_of_true (by decide) nofun
  · rw [lines_join hnone]
    simp

/-- An aborted report is read back exactly if no line of its reason is the delimiter. -/
theorem readsBack_aborted_iff {reason : String} {number : Int} :
    (Report.aborted reason number).ReadsBack ↔ delimiter ∉ lines reason.toList := by
  rw [readsBack_iff]
  exact List.forall_mem_singleton

/-- The report of an evaluation is read back exactly if no foreign line of a finding is the
delimiter. -/
theorem readsBack_ofOutcomes_iff {number : Int} {source : Option String} {outcomes : List Outcome}
    (htidy : ∀ x ∈ outcomes, ∀ f ∈ x.findings, f.IsTidy) :
    (Report.ofOutcomes number source outcomes).ReadsBack ↔
      ∀ x ∈ outcomes, ∀ f ∈ x.findings, delimiter ∉ f.foreignLines := by
  have herrors : (Report.ofOutcomes number source outcomes).errors = Outcome.errors outcomes := rfl
  rw [readsBack_iff, herrors, Outcome.errors]
  simp only [List.forall_mem_flatMap, Finding.messages, List.forall_mem_map]
  refine forall₂_congr fun x hx => forall₂_congr fun f hf => not_congr ?_
  exact Finding.mem_lines_message (htidy x hx f hf) (by decide) (by decide)

end Report

/-! ### Runs -/

/-- Why the payload of an event cannot be read is on one line. -/
theorem Runner.lineFeed_not_mem_reason {runner : Runner} {tree : Entry} {reason : String}
    (h : runner.payloadIn tree = .error (.unreadableEvent reason)) : '\n' ∉ reason.toList := by
  have hreason (fault : Fault) : '\n' ∉ (unreadableReason fault).toList := by
    unfold unreadableReason
    split <;> decide
  unfold payloadIn at h
  split at h
  · cases h
  · split at h
    · next fault _ =>
        cases h
        exact hreason fault
    · split at h
      · cases h
      · cases h
        decide
      · cases h

/-- The wording for an event without a pull request takes its foreign lines from the name of the
event. -/
theorem mem_lines_missingPullRequest (event : String) :
    delimiter ∈ lines (Fault.missingPullRequest event).message.toList ↔
      delimiter ∈ innerLines event.toList := by
  have hmessage : (Fault.missingPullRequest event).message =
      "This action can only be run on pull request events" ++
        (if event.isEmpty then "" else " (event: " ++ event ++ ")") := rfl
  rw [hmessage, String.toList_append]
  split
  · next hempty =>
      rw [String.isEmpty_iff] at hempty
      rw [hempty]
      exact (mem_lines_behind (d := ' ') (by decide) (by decide) (by decide)).trans Iff.rfl
  · rw [String.toList_append, String.toList_append, List.append_assoc, ← List.append_assoc]
    exact mem_lines_between (d := ' ') (e := ')') (by decide) (by decide) (by decide) (by decide)
      (by decide) (by decide)

/-- An aborted report is read back unless it names an event whose name has the delimiter between its
first and its last line. -/
theorem Runner.Aborts.readsBack_iff {runner : Runner} {tree : Entry} {reason : String}
    (h : runner.Aborts tree reason) : (Report.aborted reason 0).ReadsBack ↔
      ((∃ payload, runner.payloadIn tree = .ok payload) →
        delimiter ∉ innerLines runner.eventName.toList) := by
  rw [Report.readsBack_aborted_iff]
  cases h with
  | @unreadable reason hread =>
      refine iff_of_true ?_ ?_
      · have hmessage : (Fault.unreadableEvent reason).message = Fault.unreadableStart ++ reason :=
          rfl
        rw [hmessage, String.toList_append,
          mem_lines_behind (d := ' ') (by decide) (by decide) (by decide), laterLines,
          lines_of_not_mem (lineFeed_not_mem_reason hread)]
        exact List.not_mem_nil
      · rintro ⟨payload, hpayload⟩
        cases hread.symm.trans hpayload
  | @noPullRequest payload described hread _ _ =>
      rw [mem_lines_missingPullRequest]
      exact ⟨fun h _ => h, fun h => h ⟨payload, hread⟩⟩

namespace ActionInputs

variable {inputs : ActionInputs} {runner : Runner} {tree : Entry} {transport : Transport}
  {done : ActionRun} {path : Path}

/-- **Which runs leave a record that is read as what was written.** A run that returns adds the
record of its report behind what the file of step outputs held. It is read as the result and the
errors exactly if no line of an error is the delimiter. The report of an aborted run has such a line
only if the name of the event does; that of an evaluation only if a finding has it as a foreign
line, which comes from a text that its check quotes. -/
theorem run_record_readsBack_iff (hrun : inputs.run runner tree transport = .ok done)
    (hpath : runner.output = some path) :
    ∃ report, inputs.Reports runner tree transport report done.exit ∧
      done.tree.bytesAt? path = some ((tree.bytesAt? path).getD [] ++ report.recordBytes) ∧
      (report.ReadsBack ↔ ∀ error ∈ report.errors, delimiter ∉ lines error.toList) ∧
      ((∃ reason, runner.Aborts tree reason ∧ report = .aborted reason 0 ∧
        (report.ReadsBack ↔ ((∃ payload, runner.payloadIn tree = .ok payload) →
          delimiter ∉ innerLines runner.eventName.toList))) ∨
      ∃ pr effective outcomes, inputs.Completes runner tree transport pr effective outcomes ∧
        report = .ofOutcomes pr.number effective.sourceName outcomes ∧
        (report.ReadsBack ↔ ∀ x ∈ outcomes, ∀ f ∈ x.findings, delimiter ∉ f.foreignLines) ∧
        ∀ x ∈ outcomes, ∀ f ∈ x.findings, f.foreignLines ⊆
          x.check.foreignLines pr (inputs.surroundings runner tree transport).commits) := by
  obtain ⟨report, hreport, hrecord⟩ := exists_report_of_run hrun
  refine ⟨report, hreport, Runner.bytesAt?_of_record hpath hrecord, report.readsBack_iff, ?_⟩
  generalize done.exit = exit at hreport
  cases hreport with
  | @aborted reason haborts => exact .inl ⟨reason, haborts, rfl, haborts.readsBack_iff⟩
  | @completed pr effective outcomes hcompletes =>
      have hfindings : ∀ x ∈ outcomes, ∀ f ∈ x.findings, f.IsTidy ∧ f.foreignLines ⊆
          x.check.foreignLines pr (inputs.surroundings runner tree transport).commits :=
        fun x hx f hf => foreignLines_subset (run_of_mem_runChecks hcompletes.judged hx) hf
      exact .inr ⟨pr, effective, outcomes, hcompletes, rfl,
        Report.readsBack_ofOutcomes_iff fun x hx f hf => (hfindings x hx f hf).1,
        fun x hx f hf => (hfindings x hx f hf).2⟩

/-- The place of the step's files in the examples. -/
def stepRunner : Runner where
  eventPath := some (.parse "/event.json")
  output := some (.parse "/outputs")

/-- A file tree with the payload of an event. -/
def eventTree (payload : String) : Entry :=
  .directory [("event.json", .file (encodeUtf8 payload.toList))]

/-- A pull request whose description asks for a section, and names it with the lines of a record. -/
def forgedEvent : String :=
  "\x7b\"pull_request\": \x7b\"number\": 1, \"body\": \"---\\nvalidation:\\n  sections:\\n" ++
    "    \\\"a\\\\nPRCHECK_EOF\\\\nvalidation-result=passed\\\\nx<<PRCHECK_EOF\\\\nb\\\": \x7b\x7d" ++
      "\\n---\\n\"\x7d\x7d"

/-- What later steps are told. -/
def forgedOutputs : List Assignment := [
  ⟨"validation-result", "failed"⟩, ⟨"validation-errors", "Section \"a"⟩,
  ⟨"validation-result", "passed"⟩, ⟨"x", "b\" not found in PR description"⟩]

/-- The run on the pull request returns, and its record tells later steps that the pull request has
passed. -/
theorem run_forgedEvent :
    ((run {} stepRunner (eventTree forgedEvent) fun _ => .failed "").toOption.bind fun done =>
      (done.tree.bytesAt? (.parse "/outputs")).bind readBytes?) = some forgedOutputs := by
  decide +kernel

/-- Whatever report the run has recorded is not read back. -/
theorem not_readsBack_forgedEvent :
    ∃ done, run {} stepRunner (eventTree forgedEvent) (fun _ => .failed "") = .ok done ∧
      ∀ report : Report, done.tree.bytesAt? (.parse "/outputs") =
        some (((eventTree forgedEvent).bytesAt? (.parse "/outputs")).getD [] ++
          report.recordBytes) → ¬ report.ReadsBack := by
  obtain ⟨done, hdone, hread⟩ := Option.bind_eq_some_iff.mp run_forgedEvent
  refine ⟨done, ok_of_toOption hdone, fun report hbytes hreads => ?_⟩
  have hfresh : (eventTree forgedEvent).bytesAt? (.parse "/outputs") = none := rfl
  rw [hbytes, hfresh, Option.bind_some, Option.getD_none, List.nil_append] at hread
  have hshort := congrArg (Option.map List.length) (hreads.symm.trans hread)
  exact absurd hshort (by simp [forgedOutputs])

/-- The forged record is a record of some report that is not read back. -/
theorem run_record_readsBack_iff_forged :
    ∃ done, run {} stepRunner (eventTree forgedEvent) (fun _ => .failed "") = .ok done ∧
      stepRunner.output = some (.parse "/outputs") ∧
      ∃ report, Reports {} stepRunner (eventTree forgedEvent) (fun _ => .failed "") report
        done.exit ∧ ∃ error ∈ report.errors, delimiter ∈ lines error.toList := by
  obtain ⟨done, hrun, hforged⟩ := not_readsBack_forgedEvent
  obtain ⟨report, hreport, hbytes, hreads, -⟩ := run_record_readsBack_iff hrun rfl
  refine ⟨done, hrun, rfl, report, hreport, ?_⟩
  by_contra hplain
  refine hforged report hbytes (hreads.mpr fun error herror hmem => ?_)
  exact hplain ⟨error, herror, hmem⟩

/-- Not every run leaves a record that is read as what was written. -/
theorem not_forall_run_record_readsBack :
    ¬ ∀ (inputs : ActionInputs) (runner : Runner) (tree : Entry) (transport : Transport)
      (done : ActionRun) (path : Path), inputs.run runner tree transport = .ok done →
        runner.output = some path → ∃ report : Report,
          done.tree.bytesAt? path = some ((tree.bytesAt? path).getD [] ++ report.recordBytes) ∧
            report.ReadsBack := by
  intro h
  obtain ⟨done, hrun, hforged⟩ := not_readsBack_forgedEvent
  obtain ⟨report, hbytes, hreads⟩ := h _ _ _ _ done _ hrun rfl
  exact hforged report hbytes hreads

end ActionInputs

end MergeGate
