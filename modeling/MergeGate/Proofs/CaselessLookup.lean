import MergeGate.Proofs.ListingOrder
import MergeGate.Resolution

/-!
# Looking a file up without regard to case

A path is meant to lead to a file below the working tree whose names agree with its components when
case is ignored. This module says what it does lead to. What is found is such a file, the one that is
named exactly if there is one, and it does not depend on how the directories are listed.

But a file can be overlooked. The choice that a component makes is never taken back: where a directory
has several names that agree with a component, one of them is entered, and a file below another one is
not seen. So the path leads to a file exactly if the names that its components choose, one after the
other, lead to one; a file whose way has no rivals is always found.

## Conventions

* `Workspace.pathBelow`: the path that is shown for names below the working tree.
* `Workspace.rivals`: a working tree in which two directories differ in case only.

## Main results

* `resolve_eq_some_iff`: **a path leads to the file that the names chosen by its components lead to.**
* `resolve_caseless`: **what a path leads to**, and that the order of listing does not matter.
* `load_inTree_eq_none_iff`: a place in the working tree is taken for absent if its path leads nowhere.
* `resolve_finds_iff`: **when a path leads to a file**, and that a file without rivals is found.
* `not_forall_resolve_finds`: a file below the working tree is overlooked.
-/

namespace MergeGate

open Entry
open Location (extend maxName)

namespace Workspace

/-- The path that is shown for names below the working tree. -/
def pathBelow (w : Workspace) (names : List String) : String :=
  names.foldl extend w.rootLocation.shown

/-- Entries two of which are directories whose names differ in case only. -/
def rivalEntries : List (String × Entry) :=
  [("docs", .directory [("index.md", .file [])]),
    ("Docs", .directory [("Rules.yml", .file [])]),
    ("ci", .directory [("Rules.yml", .file [])])]

/-- A working tree with these entries. -/
def rivals : Workspace := ⟨.directory [("ws", .directory rivalEntries)], ⟨"/", ["ws"]⟩⟩

variable {w : Workspace} {path shown : String} {content : List UInt8}

/-! ### What a path leads to -/

/-- The file at a place. -/
theorem fileAt?_eq_some_iff {l : Location} :
    l.fileAt? = some (shown, content) ↔ l.shown = shown ∧ l.entry = .file content := by
  rw [Location.fileAt?]
  cases l.entry with
  | file bytes => simp
  | directory children => simp

section Relative

variable (hrelative : (pathOf path).isAbsolute = false)

include hrelative

/-- A path with a double dot is refused. -/
theorem resolve_of_mem (hup : ".." ∈ (pathOf path).parts) :
    w.resolve path = .error (.outsideWorkspace path) := by
  rw [resolve_eq, if_pos (by simpa [hrelative] using hup)]

/-- Every other path is walked. -/
theorem resolve_of_not_mem (hup : ".." ∉ (pathOf path).parts) :
    w.resolve path =
      (w.rootLocation.walk (pathOf path).parts).map (·.bind Location.fileAt?) := by
  have hstart : w.startOf (pathOf path) = w.rootLocation := by simp [startOf, hrelative]
  rw [resolve_eq, if_neg (by simpa [hrelative] using hup), hstart]

variable (hshort : ∀ part ∈ (pathOf path).parts, part.utf8ByteSize ≤ maxName)

include hshort

/-- A path without a double dot leads to a file or to nothing. -/
theorem resolve_returns (hup : ".." ∉ (pathOf path).parts) : ∃ found, w.resolve path = .ok found := by
  obtain ⟨found, hfound⟩ := Location.walk_returns (l := w.rootLocation) hshort
  exact ⟨_, by rw [resolve_of_not_mem hrelative hup, hfound]; rfl⟩

/-- **A path leads to the file that the names chosen by its components lead to.** -/
theorem resolve_eq_some_iff (hup : ".." ∉ (pathOf path).parts) :
    w.resolve path = .ok (some (shown, content)) ↔
      ∃ names, Leads (pathOf path).parts names w.rootLocation.entry (.file content) ∧
        shown = w.pathBelow names := by
  rw [resolve_of_not_mem hrelative hup]
  refine Iff.trans ?_ (Location.walk_eq_some_iff hup hshort)
  obtain ⟨found, hfound⟩ := Location.walk_returns (l := w.rootLocation) hshort
  rw [hfound]
  constructor
  · intro h
    obtain ⟨l, rfl, hl⟩ := Option.bind_eq_some_iff.mp (Except.ok.inj h)
    obtain ⟨hshown, hentry⟩ := fileAt?_eq_some_iff.mp hl
    exact ⟨l, rfl, hshown, hentry⟩
  · rintro ⟨l, hl, hshown, hentry⟩
    obtain rfl := Except.ok.inj hl
    exact congrArg Except.ok (fileAt?_eq_some_iff.mpr ⟨hshown, hentry⟩)

end Relative

/-- **What a path leads to.** A relative path is refused exactly if a component is a double dot, and leads
to a file or to nothing otherwise. The file lies below the working tree, and its names agree with the
components when case is ignored; a file whose names are the components is taken. In whatever order the
directories are listed, the path leads to the same file. -/
theorem resolve_caseless (hroot : w.rootLocation.entry.isDirectory = true)
    (hrelative : (pathOf path).isAbsolute = false)
    (hshort : ∀ part ∈ (pathOf path).parts, part.utf8ByteSize ≤ maxName) :
    (w.resolve path = .error (.outsideWorkspace path) ↔ ".." ∈ (pathOf path).parts) ∧
    (".." ∉ (pathOf path).parts → ∃ found, w.resolve path = .ok found) ∧
    (∀ shown content, w.resolve path = .ok (some (shown, content)) →
      ∃ names, names ≠ [] ∧ w.rootLocation.entry.find? names = some (.file content) ∧
        Agree names (pathOf path).parts ∧ shown = w.pathBelow names) ∧
    (∀ content, ".." ∉ (pathOf path).parts →
      w.rootLocation.entry.find? (pathOf path).parts = some (.file content) →
      w.resolve path = .ok (some (w.pathBelow (pathOf path).parts, content))) ∧
    ∀ top', Relisted w.top top' → resolve { w with top := top' } path = w.resolve path := by
  refine ⟨⟨fun h => ?_, resolve_of_mem hrelative⟩, resolve_returns hrelative hshort,
    fun shown content h => ?_, fun content hup hfile => ?_, fun top' h => resolve_relisted h path⟩
  · by_contra hup
    obtain ⟨found, hfound⟩ := resolve_returns (w := w) hrelative hshort hup
    rw [h] at hfound
    cases hfound
  · have hup : ".." ∉ (pathOf path).parts := by
      intro hup
      rw [resolve_of_mem hrelative hup] at h
      cases h
    obtain ⟨names, hleads, hshown⟩ := (resolve_eq_some_iff hrelative hshort hup).mp h
    refine ⟨names, ?_, hleads.find?_eq, hleads.agree, hshown⟩
    rintro rfl
    have hfile : w.rootLocation.entry = .file content := Option.some.inj hleads.find?_eq
    rw [hfile] at hroot
    cases hroot
  · exact (resolve_eq_some_iff hrelative hshort hup).mpr ⟨_, Leads.of_find? hfile, rfl⟩

/-- Of two directories that agree with a component the first in the order of the names is entered, also
where it is listed first. -/
theorem resolve_caseless_rivals :
    (∃ names, names ≠ [] ∧ rivals.rootLocation.entry.find? names = some (.file []) ∧
      Agree names ["DOCS", "rules.yml"] ∧ "/ws/Docs/Rules.yml" = rivals.pathBelow names) ∧
    resolve { rivals with top := .directory [("ws", .directory rivalEntries.reverse)] }
      "DOCS\\.\\rules.yml" = .ok (some ("/ws/Docs/Rules.yml", [])) := by
  have hfound : rivals.resolve "DOCS\\.\\rules.yml" = .ok (some ("/ws/Docs/Rules.yml", [])) := by
    decide +kernel
  have hreversed : Relisted (.directory rivalEntries) (.directory rivalEntries.reverse) :=
    .order (by decide) (List.reverse_perm _).symm
  obtain ⟨-, -, hbelow, -, hlisted⟩ :=
    @resolve_caseless rivals "DOCS\\.\\rules.yml" (by decide) (by decide) (by decide)
  exact ⟨hbelow _ _ hfound, (hlisted _ (@Relisted.inside [] [] "ws" _ _ hreversed)).trans hfound⟩

/-! ### When a file is found -/

/-- A place in the working tree is taken for absent if its path leads to nothing. A file that cannot be
read as a text is not absent. -/
theorem load_inTree_eq_none_iff {s : Sources} {found : Option (String × List UInt8)}
    (h : s.workspace.resolve path = .ok found) : s.load (.inTree path) = .ok none ↔ found = none := by
  have hload : s.load (.inTree path) = textIfThere (s.workspace.read path) := rfl
  rw [hload]
  unfold read
  rw [h]
  cases found with
  | none => exact iff_of_true rfl rfl
  | some file =>
      refine iff_of_false ?_ (Option.some_ne_none file)
      dsimp only [textOf]
      cases Text.decodeUtf8? file.2 with
      | none => simp [textIfThere]
      | some cs => simp [textIfThere]

/-- **When a path leads to a file.** It does exactly if the names that its components choose, one after the
other, lead to one, and then the file is not taken for absent. A file whose names agree with the
components is found if no directory on the way to it has another name that agrees; if there is such a
name, the file may be overlooked. -/
theorem resolve_finds_iff (s : Sources) (hrelative : (pathOf path).isAbsolute = false)
    (hup : ".." ∉ (pathOf path).parts)
    (hshort : ∀ part ∈ (pathOf path).parts, part.utf8ByteSize ≤ maxName) :
    ((∃ found, s.workspace.resolve path = .ok (some found)) ↔
      ∃ names content, Leads (pathOf path).parts names s.workspace.rootLocation.entry (.file content)) ∧
    (s.load (.inTree path) = .ok none ↔ ¬ ∃ names content,
      Leads (pathOf path).parts names s.workspace.rootLocation.entry (.file content)) ∧
    ∀ names content, s.workspace.rootLocation.entry.find? names = some (.file content) →
      Agree names (pathOf path).parts → HasNoRival names s.workspace.rootLocation.entry →
      s.workspace.resolve path = .ok (some (s.workspace.pathBelow names, content)) ∧
        s.load (.inTree path) ≠ .ok none := by
  have hsome (shown : String) (content : List UInt8) :
      s.workspace.resolve path = .ok (some (shown, content)) ↔ ∃ names,
        Leads (pathOf path).parts names s.workspace.rootLocation.entry (.file content) ∧
          shown = s.workspace.pathBelow names :=
    resolve_eq_some_iff hrelative hshort hup
  have hfound : (∃ found, s.workspace.resolve path = .ok (some found)) ↔ ∃ names content,
      Leads (pathOf path).parts names s.workspace.rootLocation.entry (.file content) := by
    constructor
    · rintro ⟨⟨shown, content⟩, h⟩
      obtain ⟨names, hleads, -⟩ := (hsome shown content).mp h
      exact ⟨names, content, hleads⟩
    · rintro ⟨names, content, hleads⟩
      exact ⟨_, (hsome _ content).mpr ⟨names, hleads, rfl⟩⟩
  obtain ⟨found, hreturn⟩ := resolve_returns (w := s.workspace) hrelative hshort hup
  have hload := load_inTree_eq_none_iff hreturn
  refine ⟨hfound, ?_, fun names content hfile hagree halone => ?_⟩
  · rw [hload, ← hfound, hreturn]
    simp [Option.eq_none_iff_forall_ne_some]
  · have hresolve := (hsome _ content).mpr ⟨names, .of_hasNoRival hfile hagree halone, rfl⟩
    rw [hresolve] at hreturn
    cases hreturn
    exact ⟨hresolve, by simp [hload]⟩

/-- A file that has no rival is found and is not taken for absent. -/
theorem resolve_finds_iff_alone :
    rivals.resolve "CI/rules.yml" = .ok (some ("/ws/ci/Rules.yml", [])) ∧
      Sources.load { workspace := rivals, fetcher := none } (.inTree "CI/rules.yml") ≠ .ok none :=
  (resolve_finds_iff { workspace := rivals, fetcher := none } (by decide) (by decide) (by decide)).2.2
    ["ci", "Rules.yml"] [] rfl (.cons (by decide) (.cons (by decide) .nil)) (by decide)

/-- A file below the working tree is overlooked, as another directory is entered. -/
theorem not_forall_resolve_finds :
    ¬ ∀ (w : Workspace) (path : String) (names : List String) (content : List UInt8),
      (pathOf path).isAbsolute = false → ".." ∉ (pathOf path).parts →
      (∀ part ∈ (pathOf path).parts, part.utf8ByteSize ≤ maxName) →
      names ≠ [] → w.rootLocation.entry.find? names = some (.file content) →
      Agree names (pathOf path).parts → ∃ found, w.resolve path = .ok (some found) := by
  intro h
  have hmissed : rivals.resolve "docs/rules.yml" = .ok none := by decide +kernel
  obtain ⟨found, hfound⟩ := h rivals "docs/rules.yml" ["Docs", "Rules.yml"] [] (by decide) (by decide)
    (by decide) (by decide) rfl (.cons (by decide) (.cons (by decide) .nil))
  rw [hfound] at hmissed
  cases hmissed

end Workspace

end MergeGate
