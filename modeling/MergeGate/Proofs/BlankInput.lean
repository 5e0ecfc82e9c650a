import MergeGate.Action

/-!
# Inputs that are empty

A workflow sets the variables of all inputs, and those that are not given to the empty text. So an
empty input is meant to be one that is not given. This module says for which inputs that is so: for
those that are texts, but not for the one that is a truth value. Its variable is read as soon as it
is set, and the empty text is no spelling of a truth value, so a run with it ends before it looks at
the pull request.

Everything that a run knows of its environment are the values that are found for names. Setting an
input to the empty text changes only the one for its own name, from none to the empty text, and each
input is then read for itself.

## Conventions

* `Input`: the inputs of the step, with their variables.
* `Environment.unset`, `Environment.setEmpty`: an environment in which some inputs are left unset,
  or set to the empty text.
* `ActionInputs.runIn`: a whole run in an environment.

## Main results

* `Environment.find_setEmpty`: what is found for a name.
* `ActionInputs.ofEnvironment_setEmpty_iff`: the inputs that are read.
* `ActionInputs.runIn_setEmpty`: **which empty inputs are as good as none.**
-/

namespace MergeGate

open Text

/-- An input of the step. -/
inductive Input where
  | configFile
  | configBranch
  | failOnError
  | githubToken
deriving Repr, DecidableEq

namespace Input

/-- The name of the variable with an input. -/
def variableName : Input → String
  | configFile => "INPUT_CONFIG_FILE"
  | configBranch => "INPUT_CONFIG_BRANCH"
  | failOnError => "INPUT_FAIL_ON_ERROR"
  | githubToken => "INPUT_GITHUB_TOKEN"

/-- The name under which the variable is looked for. -/
def key : Input → String
  | configFile => "input_config_file"
  | configBranch => "input_config_branch"
  | failOnError => "input_fail_on_error"
  | githubToken => "input_github_token"

/-- A variable is looked for by its name in lower case. -/
theorem lowerCase_variableName (i : Input) : lowerCase i.variableName.toList = i.key.toList := by
  cases i <;> decide

/-- Every input has a variable of its own. -/
theorem key_injective {i j : Input} (h : i.key = j.key) : i = j := by
  revert h
  cases i <;> cases j <;> decide

end Input

namespace Environment

variable {env : Environment} {inputs : List Input} {name : String} {i : Input}

/-- An environment in which inputs are left unset. -/
def unset (env : Environment) (inputs : List Input) : Environment :=
  env.filter fun v => !inputs.any fun i => lowerCase v.1.toList == i.key.toList

/-- An environment in which inputs are set to the empty text. -/
def setEmpty (env : Environment) (inputs : List Input) : Environment :=
  env.unset inputs ++ inputs.map fun i => (i.variableName, "")

/-! ### What is found -/

/-- What is found in two environments, one after the other. -/
theorem find_append (env other : Environment) (name : String) :
    Environment.find (env ++ other) name = (other.find name).or (env.find name) := by
  simp only [find, List.reverse_append, List.find?_append, Option.map_or]

/-- An input that is left unset is not found. -/
theorem find_unset_of_mem (hi : i ∈ inputs) : (env.unset inputs).find i.key = none := by
  rw [find, Option.map_eq_none_iff, List.find?_eq_none]
  intro v hv hname
  have hkept := (List.mem_filter.mp (List.mem_reverse.mp hv)).2
  simp only [Bool.not_eq_true', List.any_eq_false] at hkept
  exact hkept i hi hname

/-- Other names are found as they were. -/
theorem find_unset_of_not_mem (hname : ∀ i ∈ inputs, i.key ≠ name) :
    (env.unset inputs).find name = env.find name := by
  rw [find, find, unset, ← List.filter_reverse, List.find?_filter]
  congr 2
  funext v
  by_cases hv : lowerCase v.1.toList = name.toList
  · have hkept : (inputs.any fun i => name.toList == i.key.toList) = false := by
      rw [List.any_eq_false]
      intro i hi hkey
      exact hname i hi (String.toList_injective (eq_of_beq hkey)).symm
    simp only [hv, hkept, Bool.not_false, beq_self_eq_true, and_self, decide_true]
  · have hother : (lowerCase v.1.toList == name.toList) = false := beq_eq_false_iff_ne.mpr hv
    simp only [hother, Bool.false_eq_true, and_false, decide_false]

/-- The empty text is found for an input that is set to it. -/
theorem find_setEmpty_of_mem (hi : i ∈ inputs) : (env.setEmpty inputs).find i.key = some "" := by
  have hempty : Environment.find (inputs.map fun i => (i.variableName, "")) i.key = some "" := by
    rw [find]
    cases hfound : (inputs.map fun i => (i.variableName, "")).reverse.find?
        fun v => lowerCase v.1.toList == i.key.toList with
    | none =>
        have hmem : (i.variableName, "") ∈ (inputs.map fun i => (i.variableName, "")).reverse :=
          List.mem_reverse.mpr (List.mem_map_of_mem hi)
        refine absurd ?_ (List.find?_eq_none.mp hfound _ hmem)
        rw [i.lowerCase_variableName, beq_self_eq_true]
    | some v =>
        have hmem := List.mem_reverse.mp (List.mem_of_find?_eq_some hfound)
        obtain ⟨j, -, rfl⟩ := List.mem_map.mp hmem
        rfl
  rw [setEmpty, find_append, hempty, Option.some_or]

/-- For other names setting inputs to the empty text is as good as leaving them unset. -/
theorem find_setEmpty_of_not_mem (hname : ∀ i ∈ inputs, i.key ≠ name) :
    (env.setEmpty inputs).find name = (env.unset inputs).find name := by
  have hnone : Environment.find (inputs.map fun i => (i.variableName, "")) name = none := by
    rw [find, Option.map_eq_none_iff, List.find?_eq_none]
    intro v hv hkey
    obtain ⟨i, hi, rfl⟩ := List.mem_map.mp (List.mem_reverse.mp hv)
    rw [i.lowerCase_variableName] at hkey
    exact hname i hi (String.toList_injective (eq_of_beq hkey))
  rw [setEmpty, find_append, hnone, Option.none_or]

/-- **What is found for a name.** It is the same, unless it is the empty text in place of none. -/
theorem find_setEmpty (env : Environment) (inputs : List Input) (name : String) :
    (env.setEmpty inputs).find name = (env.unset inputs).find name ∨
      (env.setEmpty inputs).find name = some "" ∧ (env.unset inputs).find name = none := by
  by_cases hname : ∃ i ∈ inputs, i.key = name
  · obtain ⟨i, hi, rfl⟩ := hname
    exact .inr ⟨find_setEmpty_of_mem hi, find_unset_of_mem hi⟩
  · refine .inl (find_setEmpty_of_not_mem fun i hi hkey => hname ⟨i, hi, hkey⟩)

end Environment

/-! ### The inputs that are read -/

namespace ActionInputs

variable {env : Environment} {inputs : List Input}

/-- A text that is empty is read as one that is not given. -/
theorem unlessBlank?_find_setEmpty (env : Environment) (inputs : List Input) (name : String) :
    ((env.setEmpty inputs).find name).bind unlessBlank? =
      ((env.unset inputs).find name).bind unlessBlank? := by
  have hempty : unlessBlank? "" = none := by decide
  rcases env.find_setEmpty inputs name with hsame | ⟨hset, hnone⟩
  · rw [hsame]
  · rw [hset, hnone, Option.bind_some, hempty, Option.bind_none]

/-- A token that is empty is read as one that is not given. -/
theorem findOr_setEmpty (env : Environment) (inputs : List Input) (name : String) :
    (env.setEmpty inputs).findOr name "" = (env.unset inputs).findOr name "" := by
  rw [Environment.findOr, Environment.findOr]
  rcases env.find_setEmpty inputs name with hsame | ⟨hset, hnone⟩
  · rw [hsame]
  · rw [hset, hnone, Option.getD_some, Option.getD_none]

/-- The problem with a truth value that is empty. -/
def emptyTruthValue : Problem := ⟨[.field "fail_on_error"], .unreadableBool⟩

/-- Without the truth value among the inputs that are empty, the same inputs are read. -/
theorem ofEnvironment_setEmpty (h : .failOnError ∉ inputs) :
    ofEnvironment (env.setEmpty inputs) = ofEnvironment (env.unset inputs) := by
  have hother : ∀ i ∈ inputs, i.key ≠ "input_" ++ "fail_on_error" :=
    fun i hi hkey => h (Input.key_injective (i := i) (j := .failOnError) hkey ▸ hi)
  simp only [ofEnvironment, Environment.readOr, Environment.find_setEmpty_of_not_mem hother,
    unlessBlank?_find_setEmpty, findOr_setEmpty]

/-- An empty truth value is a problem. -/
theorem ofEnvironment_setEmpty_of_mem (h : .failOnError ∈ inputs) :
    ofEnvironment (env.setEmpty inputs) = .error [emptyTruthValue] := by
  have hfound : (env.setEmpty inputs).find ("input_" ++ "fail_on_error") = some "" :=
    Environment.find_setEmpty_of_mem h
  have hread : Lenient.bool (.text "") = .error .unreadableBool := rfl
  simp only [ofEnvironment, Environment.readOr, hfound, hread]
  rfl

/-- A truth value that is left unset is true. -/
theorem ofEnvironment_unset_of_mem (env : Environment) (h : .failOnError ∈ inputs) :
    ∃ read, ofEnvironment (env.unset inputs) = .ok read ∧ read.failOnError = true := by
  have hfound : (env.unset inputs).find ("input_" ++ "fail_on_error") = none :=
    Environment.find_unset_of_mem h
  simp only [ofEnvironment, Environment.readOr, hfound]
  exact ⟨_, rfl, rfl⟩

/-- **The inputs that are read.** They are the same exactly if the truth value is not among those
that are empty. -/
theorem ofEnvironment_setEmpty_iff :
    ofEnvironment (env.setEmpty inputs) = ofEnvironment (env.unset inputs) ↔
      .failOnError ∉ inputs := by
  refine ⟨fun hsame h => ?_, ofEnvironment_setEmpty⟩
  obtain ⟨read, hread, -⟩ := ofEnvironment_unset_of_mem env h
  rw [ofEnvironment_setEmpty_of_mem h, hread] at hsame
  cases hsame

/-! ### Whole runs -/

/-- A whole run in an environment. -/
def runIn (env : Environment) (tree : Entry) (transport : Transport) : Except Fault ActionRun :=
  match ofEnvironment env with
  | .error problems => .error (.invalid problems)
  | .ok inputs => inputs.run (Runner.ofEnvironment env) tree transport

/-- What the runner tells is found under names that are no inputs. -/
theorem runner_congr {env other : Environment}
    (h : ∀ name, (∀ i : Input, i.key ≠ name) → env.find name = other.find name) :
    Runner.ofEnvironment env = Runner.ofEnvironment other := by
  have hfind : ∀ name ∈ ["github_event_name", "github_event_path", "github_repository",
      "github_api_url", "github_workspace", "github_output"], env.find name = other.find name := by
    refine fun name hname => h name fun i => ?_
    revert name
    cases i <;> decide
  simp only [List.forall_mem_cons] at hfind
  obtain ⟨hname, hpath, hrepository, hbase, hworkspace, houtput, -⟩ := hfind
  simp only [Runner.ofEnvironment, Environment.findOr, hname, hpath, hrepository, hbase, hworkspace,
    houtput]

/-- What the runner tells does not depend on inputs that are left unset. -/
theorem runner_unset (env : Environment) (inputs : List Input) :
    Runner.ofEnvironment (env.unset inputs) = Runner.ofEnvironment env :=
  runner_congr fun _ hname => Environment.find_unset_of_not_mem fun i _ => hname i

/-- Nor does it depend on inputs that are set to the empty text. -/
theorem runner_setEmpty (env : Environment) (inputs : List Input) :
    Runner.ofEnvironment (env.setEmpty inputs) = Runner.ofEnvironment (env.unset inputs) :=
  runner_congr fun _ hname => Environment.find_setEmpty_of_not_mem fun i _ => hname i

/-- **Which empty inputs are as good as none.** In every environment, any of the inputs set to the
empty text are read as if they were left unset exactly if the truth value is not among them, and
then the whole run is the same, its exit code, the file of step outputs and its requests. An empty
truth value ends the run with a problem before anything is looked at or recorded, while one that is
left unset is true and the run goes on with the inputs that are read. -/
theorem runIn_setEmpty (env : Environment) (inputs : List Input) (tree : Entry)
    (transport : Transport) :
    (ofEnvironment (env.setEmpty inputs) = ofEnvironment (env.unset inputs) ↔
      .failOnError ∉ inputs) ∧
    (.failOnError ∉ inputs →
      runIn (env.setEmpty inputs) tree transport = runIn (env.unset inputs) tree transport) ∧
    (.failOnError ∈ inputs →
      runIn (env.setEmpty inputs) tree transport = .error (.invalid [emptyTruthValue]) ∧
      ∃ read, ofEnvironment (env.unset inputs) = .ok read ∧ read.failOnError = true ∧
        runIn (env.unset inputs) tree transport =
          read.run (Runner.ofEnvironment env) tree transport) := by
  refine ⟨ofEnvironment_setEmpty_iff, fun h => ?_, fun h => ⟨?_, ?_⟩⟩
  · rw [runIn, runIn, ofEnvironment_setEmpty h, runner_setEmpty]
  · rw [runIn, ofEnvironment_setEmpty_of_mem h]
  · obtain ⟨read, hread, htrue⟩ := ofEnvironment_unset_of_mem env h
    refine ⟨read, hread, htrue, ?_⟩
    rw [runIn, hread, runner_unset]

/-- The inputs that are texts. -/
def textInputs : List Input := [.configFile, .configBranch, .githubToken]

/-- A run in which the inputs that are texts are set to the empty text is the one without them. -/
theorem runIn_setEmpty_texts :
    .failOnError ∉ textInputs ∧
      runIn (Environment.setEmpty [("Input_Fail_On_Error", "no")] textInputs) (.directory [])
          (fun _ => .failed "") =
        runIn (Environment.unset [("Input_Fail_On_Error", "no")] textInputs) (.directory [])
          (fun _ => .failed "") := by
  have htexts : .failOnError ∉ textInputs := by decide
  obtain ⟨-, hsame, -⟩ := runIn_setEmpty [("Input_Fail_On_Error", "no")] textInputs (.directory [])
    fun _ => .failed ""
  exact ⟨htexts, hsame htexts⟩

/-- A run in an environment without any variables ends with a report. -/
theorem runIn_nothing :
    (runIn (Environment.unset [] [.failOnError]) (.directory [])
      fun _ => .failed "").isOk = true := by
  decide +kernel

/-- Not every empty input is as good as none, and not every run with one is the same. -/
theorem not_forall_runIn_setEmpty :
    ¬ (∀ (env : Environment) (inputs : List Input),
      ofEnvironment (env.setEmpty inputs) = ofEnvironment (env.unset inputs)) ∧
    ¬ (∀ (env : Environment) (inputs : List Input) (tree : Entry) (transport : Transport),
      runIn (env.setEmpty inputs) tree transport = runIn (env.unset inputs) tree transport) := by
  have hmem : Input.failOnError ∈ [Input.failOnError] := List.mem_singleton_self _
  constructor
  · intro h
    exact ofEnvironment_setEmpty_iff.mp (h [] [.failOnError]) hmem
  · intro h
    have hok := runIn_nothing
    rw [← h, runIn, ofEnvironment_setEmpty_of_mem hmem] at hok
    cases hok

end ActionInputs

end MergeGate
