import Mathlib.Data.List.Induction
import Mathlib.Data.String.Basic
import MergeGate.Workspace

/-!
# Which entries a path chooses

A path is followed from a directory down, one component after the other, and each component chooses
one entry: the one that is named as the component is written, if there is such an entry, and otherwise
the first in the order of the names among those that agree with it in lower case. A choice is never
taken back. This module says what is chosen in terms of the names of a directory alone, so that it
can be seen that the order in which a directory is listed plays no part in it.

## Conventions

* `Entry.names`: the names of the entries of a directory.
* `Entry.Chooses`: a component chooses a name.
* `Entry.Agree`: names agree with the components of a path in lower case.
* `Entry.Leads`: the names that the components of a path choose lead from an entry down to another one.
* `Entry.HasNoRival`: no directory on a way down has two names that agree with the one on the way.

## Main results

* `findInLower?_eq_some_iff`: the first entry that agrees with a component in lower case.
* `choice?_eq_some_iff`: the entry that a component chooses.
* `step_eq_some_iff`: one step goes down to the entry that the component chooses.
* `walk_error`: a walk is a fault only for a name that is too long.
* `resolve_eq`: the lookup of a path is a walk.
* `walk_eq_some_iff`: **a walk goes down where the names that the components choose lead.**
* `Leads.unique`, `Leads.agree`, `Leads.find?_eq`: there is one such way at most, its names agree with the
  components, and it is a way of the tree.
* `Leads.of_find?`, `Leads.of_hasNoRival`: two kinds of ways that are always taken.
-/

namespace MergeGate

open Location (sameInLower findInLower? extend)

namespace Entry

variable {children : List (String × Entry)} {part name other : String} {child : Entry}

/-! ### Entries by name -/

/-- The names of the entries of a directory. -/
def names (children : List (String × Entry)) : List String := children.map Prod.fst

/-- A name is that of an entry exactly if an entry is found under it. -/
theorem mem_names_iff : name ∈ names children ↔ ∃ child, children.lookup name = some child := by
  rw [← Option.isSome_iff_exists, List.lookup_isSome_iff, names, List.mem_map]
  simp only [beq_iff_eq]
  exact exists_congr fun c => and_congr_right fun _ => eq_comm

/-- Among the entries with names of some kind, an entry is found under a name of that kind. -/
theorem lookup_filter (p : String → Bool) (name : String) (children : List (String × Entry)) :
    (children.filter fun c => p c.1).lookup name = if p name then children.lookup name else none := by
  induction children with
  | nil => simp
  | cons c rest ih =>
      obtain ⟨first, child⟩ := c
      by_cases hname : name = first
      · subst hname
        by_cases hp : p name = true
        · rw [List.filter_cons_of_pos (by exact hp), List.lookup_cons_self, List.lookup_cons_self,
            if_pos hp]
        · rw [List.filter_cons_of_neg (by exact hp), ih, if_neg hp, if_neg hp]
      · have hskip (others : List (String × Entry)) :
            ((first, child) :: others).lookup name = others.lookup name := by
          rw [List.lookup_cons, beq_eq_false_iff_ne.mpr hname]
        rw [hskip, ← ih, List.filter_cons]
        split
        · exact hskip _
        · rfl

/-! ### The first entry in the order of the names -/

/-- The earlier of two entries in the order of the names. -/
def earlier : Option (String × Entry) → String × Entry → Option (String × Entry)
  | none, c => some c
  | some b, c => if c.1 < b.1 then some c else some b

/-- Of all entries the first in the order of the names is kept. -/
theorem exists_foldl_earlier (h : children ≠ []) :
    ∃ b, children.foldl earlier none = some b ∧ children.lookup b.1 = some b.2 ∧
      ∀ other ∈ names children, b.1 ≤ other := by
  induction children using List.reverseRecOn with
  | nil => exact absurd rfl h
  | append_singleton init c ih =>
      obtain ⟨last, child⟩ := c
      rw [List.foldl_concat]
      by_cases hinit : init = []
      · exact ⟨(last, child), by simp [hinit, earlier], by simp [hinit], by simp [hinit, names]⟩
      · obtain ⟨b, hb, hlookup, hfirst⟩ := ih hinit
        have hnames : names (init ++ [(last, child)]) = names init ++ [last] := by simp [names]
        simp only [hb, hnames, List.lookup_append]
        by_cases hc : last < b.1
        · have hnew : init.lookup last = none := by
            by_contra hne
            obtain ⟨child, hchild⟩ := Option.ne_none_iff_exists'.mp hne
            exact absurd (hfirst _ (mem_names_iff.mpr ⟨child, hchild⟩)) (not_le.mpr hc)
          refine ⟨(last, child), if_pos hc, by simp [hnew], fun other hother => ?_⟩
          rcases List.mem_append.mp hother with hother | hother
          · exact hc.le.trans (hfirst other hother)
          · exact (List.mem_singleton.mp hother).ge
        · refine ⟨b, if_neg hc, by simp [hlookup], fun other hother => ?_⟩
          rcases List.mem_append.mp hother with hother | hother
          · exact hfirst other hother
          · exact (List.mem_singleton.mp hother) ▸ not_lt.mp hc

/-- **The first entry that agrees with a component in lower case**: no name that agrees with it comes
before. -/
theorem findInLower?_eq_some_iff : findInLower? part children = some (name, child) ↔
    children.lookup name = some child ∧ sameInLower name part = true ∧
      ∀ other ∈ names children, sameInLower other part = true → name ≤ other := by
  have hfold : findInLower? part children =
      (children.filter fun c => sameInLower c.1 part).foldl earlier none := by
    rw [findInLower?]
    congr 1
    funext best c
    cases best <;> rfl
  have hmem (other : String) : other ∈ names (children.filter fun c => sameInLower c.1 part) ↔
      other ∈ names children ∧ sameInLower other part = true := by
    simp only [mem_names_iff, lookup_filter (sameInLower · part)]
    split
    · next hother => simp [hother]
    · next hother => simp [hother]
  rw [hfold]
  constructor
  · intro h
    have hne : children.filter (fun c => sameInLower c.1 part) ≠ [] := by
      rintro hnil
      rw [hnil] at h
      cases h
    obtain ⟨b, hb, hlookup, hfirst⟩ := exists_foldl_earlier hne
    obtain rfl : b = (name, child) := Option.some.inj (hb.symm.trans h)
    rw [lookup_filter (sameInLower · part)] at hlookup
    split at hlookup
    · next hagrees => exact ⟨hlookup, hagrees, fun other hother hsame =>
        hfirst other ((hmem other).mpr ⟨hother, hsame⟩)⟩
    · cases hlookup
  · rintro ⟨hlookup, hagrees, hfirst⟩
    have hname : name ∈ names (children.filter fun c => sameInLower c.1 part) :=
      (hmem name).mpr ⟨mem_names_iff.mpr ⟨child, hlookup⟩, hagrees⟩
    have hne : children.filter (fun c => sameInLower c.1 part) ≠ [] := by
      intro hnil
      rw [hnil] at hname
      cases hname
    obtain ⟨⟨first, e⟩, hb, hlookup', hfirst'⟩ := exists_foldl_earlier hne
    have hmem' := (hmem first).mp (mem_names_iff.mpr ⟨e, hlookup'⟩)
    obtain rfl : first = name := le_antisymm (hfirst' name hname) (hfirst first hmem'.1 hmem'.2)
    rw [lookup_filter (sameInLower · part), if_pos hagrees, hlookup] at hlookup'
    rw [hb, Option.some.inj hlookup']

/-! ### Choices -/

/-- A component chooses a name of a directory: the one that is the component itself, if there is one,
and otherwise the first of those that agree with the component in lower case. -/
structure Chooses (children : List (String × Entry)) (part name : String) : Prop where
  mem : name ∈ names children
  agrees : sameInLower name part = true
  exact : part ∈ names children → name = part
  first : part ∉ names children → ∀ other ∈ names children, sameInLower other part = true →
    name ≤ other

/-- Every name agrees with itself. -/
theorem sameInLower_self (name : String) : sameInLower name name = true := beq_self_eq_true _

/-- Two names that agree with the same component agree. -/
theorem sameInLower_trans (h : sameInLower name part = true) (h' : sameInLower other part = true) :
    sameInLower other name = true :=
  beq_iff_eq.mpr ((beq_iff_eq.mp h').trans (beq_iff_eq.mp h).symm)

/-- The name that is the component itself is chosen. -/
theorem Chooses.of_mem (h : part ∈ names children) : Chooses children part part :=
  ⟨h, sameInLower_self part, fun _ => rfl, fun hnot => absurd h hnot⟩

/-- A name is chosen if it is the only one that agrees with it. -/
theorem Chooses.of_alone (h : name ∈ names children) (hagrees : sameInLower name part = true)
    (halone : ∀ other ∈ names children, sameInLower other name = true → other = name) :
    Chooses children part name where
  mem := h
  agrees := hagrees
  exact hpart := (halone part hpart (sameInLower_trans hagrees (sameInLower_self part))).symm
  first _ other hother hsame := (halone other hother (sameInLower_trans hagrees hsame)).ge

/-- A component chooses one name at most. -/
theorem Chooses.unique (h : Chooses children part name) (h' : Chooses children part other) :
    name = other := by
  by_cases hpart : part ∈ names children
  · rw [h.exact hpart, h'.exact hpart]
  · exact le_antisymm (h.first hpart other h'.mem h'.agrees) (h'.first hpart name h.mem h.agrees)

/-- What a component chooses depends on the names of the directory only. -/
theorem Chooses.congr {children' : List (String × Entry)}
    (h : ∀ name, name ∈ names children ↔ name ∈ names children') (hchoice : Chooses children part name) :
    Chooses children' part name where
  mem := (h name).mp hchoice.mem
  agrees := hchoice.agrees
  exact hpart := hchoice.exact ((h part).mpr hpart)
  first hpart other hother := hchoice.first (mt (h part).mp hpart) other ((h other).mpr hother)

/-- The entry that a component chooses, if there is one. -/
def choice? (part : String) (children : List (String × Entry)) : Option (String × Entry) :=
  match children.lookup part with
  | some child => some (part, child)
  | none => findInLower? part children

/-- **The entry that a component chooses** is the one under the name that it chooses. -/
theorem choice?_eq_some_iff : choice? part children = some (name, child) ↔
    Chooses children part name ∧ children.lookup name = some child := by
  rw [choice?]
  cases hpart : children.lookup part with
  | some e =>
      have hmem : part ∈ names children := mem_names_iff.mpr ⟨e, hpart⟩
      constructor
      · intro h
        cases h
        exact ⟨.of_mem hmem, hpart⟩
      · rintro ⟨hchoice, hlookup⟩
        obtain rfl := hchoice.exact hmem
        rw [Option.some.inj (hpart.symm.trans hlookup)]
  | none =>
      have hmem : part ∉ names children := by
        rw [mem_names_iff, hpart]
        rintro ⟨e, he⟩
        cases he
      rw [findInLower?_eq_some_iff]
      constructor
      · rintro ⟨hlookup, hagrees, hfirst⟩
        exact ⟨⟨mem_names_iff.mpr ⟨child, hlookup⟩, hagrees, fun hnot => absurd hnot hmem,
          fun _ => hfirst⟩, hlookup⟩
      · rintro ⟨hchoice, hlookup⟩
        exact ⟨hlookup, hchoice.agrees, hchoice.first hmem⟩

end Entry

/-! ### Steps and walks -/

namespace Location

open Entry

variable {l next : Location} {part : String} {fault : Fault}

/-- A step from a directory goes to the entry that the component chooses. -/
theorem step_of_directory {children : List (String × Entry)} (hl : l.entry = .directory children) :
    l.step part = if part = ".." then .ok (some l.leave)
      else if maxName < part.utf8ByteSize then .error .longName
      else .ok ((choice? part children).map fun c => l.enter c.1 c.2) := by
  simp only [step, hl, choice?]
  cases children.lookup part <;> rfl

/-- A step is a fault only for a name that is too long. -/
theorem step_error (h : l.step part = .error fault) :
    fault = .longName ∧ maxName < part.utf8ByteSize := by
  cases hl : l.entry with
  | file content =>
      rw [step, hl] at h
      cases h
  | directory children =>
      rw [step_of_directory hl] at h
      split at h
      · cases h
      · split at h
        · next hlong =>
            cases h
            exact ⟨rfl, hlong⟩
        · cases h

/-- **One step goes down to the entry that the component chooses.** -/
theorem step_eq_some_iff (hup : part ≠ "..") (hshort : part.utf8ByteSize ≤ maxName) :
    l.step part = .ok (some next) ↔ ∃ name child, Chooses l.entry.children part name ∧
      l.entry.children.lookup name = some child ∧ next = l.enter name child := by
  cases hl : l.entry with
  | file content =>
      rw [step, hl]
      refine iff_of_false (by simp) ?_
      rintro ⟨name, child, -, hlookup, -⟩
      cases hlookup
  | directory children =>
      rw [step_of_directory hl, if_neg hup, if_neg (not_lt.mpr hshort), Except.ok.injEq,
        Option.map_eq_some_iff]
      constructor
      · rintro ⟨⟨name, child⟩, hchoice, rfl⟩
        obtain ⟨hname, hlookup⟩ := choice?_eq_some_iff.mp hchoice
        exact ⟨name, child, hname, hlookup, rfl⟩
      · rintro ⟨name, child, hname, hlookup, rfl⟩
        exact ⟨(name, child), choice?_eq_some_iff.mpr ⟨hname, hlookup⟩, rfl⟩

end Location

namespace Entry

/-- Names agree with components in lower case, one for one. -/
def Agree (names parts : List String) : Prop :=
  List.Forall₂ (fun name part => sameInLower name part = true) names parts

/-- The names that the components of a path choose, one after the other, lead from an entry down to
another one. -/
inductive Leads : List String → List String → Entry → Entry → Prop
  | here (e : Entry) : Leads [] [] e e
  | down {part name : String} {parts names : List String} {e child last : Entry} :
      Chooses e.children part name → e.children.lookup name = some child →
      Leads parts names child last → Leads (part :: parts) (name :: names) e last

/-- No directory on a way down the tree has another name that agrees with the one that the way takes. -/
def HasNoRival : List String → Entry → Prop
  | [], _ => True
  | name :: rest, e =>
    (∀ other ∈ names e.children, sameInLower other name = true → other = name) ∧
      ∀ child ∈ e.children.lookup name, HasNoRival rest child

instance decidableHasNoRival : (way : List String) → (e : Entry) → Decidable (HasNoRival way e)
  | [], _ => inferInstanceAs (Decidable True)
  | name :: rest, e =>
    have (child : Entry) : Decidable (HasNoRival rest child) := decidableHasNoRival rest child
    inferInstanceAs (Decidable (
      (∀ other ∈ names e.children, sameInLower other name = true → other = name) ∧
        ∀ child ∈ e.children.lookup name, HasNoRival rest child))

namespace Leads

variable {parts names names' : List String} {e last last' : Entry}

/-- There is one way at most. -/
theorem unique (h : Leads parts names e last) (h' : Leads parts names' e last') :
    names = names' ∧ last = last' := by
  induction h generalizing names' with
  | here e =>
      cases h'
      exact ⟨rfl, rfl⟩
  | down hchoice hlookup _ ih =>
      cases h' with
      | down hchoice' hlookup' hrest' =>
          obtain rfl := hchoice.unique hchoice'
          rw [hlookup] at hlookup'
          cases hlookup'
          obtain ⟨rfl, rfl⟩ := ih hrest'
          exact ⟨rfl, rfl⟩

/-- The names agree with the components, one for one. -/
theorem agree (h : Leads parts names e last) : Agree names parts := by
  induction h with
  | here e => exact .nil
  | down hchoice _ _ ih => exact .cons hchoice.agrees ih

/-- The way is a way of the tree. -/
theorem find?_eq (h : Leads parts names e last) : e.find? names = some last := by
  induction h with
  | here _ => rw [find?]
  | down _ hlookup _ ih =>
      rw [find?, hlookup]
      exact ih

/-- A path that is written exactly as the entries are named leads to what it names. -/
theorem of_find? (h : e.find? parts = some last) : Leads parts parts e last := by
  induction parts generalizing e with
  | nil =>
      rw [find?] at h
      cases h
      exact .here _
  | cons part rest ih =>
      rw [find?] at h
      split at h
      · next child hchild => exact .down (.of_mem (mem_names_iff.mpr ⟨child, hchild⟩)) hchild (ih h)
      · cases h

/-- Names lead down a way of the tree if no directory on it has another name that agrees. -/
theorem of_hasNoRival (hfind : e.find? names = some last) (hagree : Agree names parts)
    (halone : HasNoRival names e) : Leads parts names e last := by
  induction hagree generalizing e with
  | nil =>
      rw [find?] at hfind
      cases hfind
      exact .here _
  | cons hname _ ih =>
      rw [find?] at hfind
      split at hfind
      · next child hchild =>
          obtain ⟨hfirst, hrest⟩ := halone
          have hmem := mem_names_iff.mpr ⟨child, hchild⟩
          exact .down (.of_alone hmem hname hfirst) hchild (ih hfind (hrest child hchild))
      · cases hfind

end Leads

end Entry

namespace Location

open Entry

variable {l : Location} {parts : List String} {shown : String} {last : Entry} {fault : Fault}

/-- A walk is a fault only for a name that is too long. -/
theorem walk_error (h : l.walk parts = .error fault) :
    fault = .longName ∧ ∃ part ∈ parts, maxName < part.utf8ByteSize := by
  induction parts generalizing l with
  | nil => cases h
  | cons part rest ih =>
      rw [walk] at h
      split at h
      · next found hstep =>
          cases h
          obtain ⟨hfault, hlong⟩ := step_error hstep
          exact ⟨hfault, part, List.mem_cons_self, hlong⟩
      · cases h
      · obtain ⟨hfault, long, hmem, hlong⟩ := ih h
        exact ⟨hfault, long, List.mem_cons_of_mem part hmem, hlong⟩

/-- Without such a name a walk comes to its end. -/
theorem walk_returns (hshort : ∀ part ∈ parts, part.utf8ByteSize ≤ maxName) :
    ∃ found, l.walk parts = .ok found := by
  cases hwalk : l.walk parts with
  | ok found => exact ⟨found, rfl⟩
  | error fault =>
      obtain ⟨-, part, hpart, hlong⟩ := walk_error hwalk
      exact absurd (hshort part hpart) (not_le.mpr hlong)

/-- **A walk goes down where the names that the components choose lead**, and these names are what is
shown. -/
theorem walk_eq_some_iff (hup : ".." ∉ parts)
    (hshort : ∀ part ∈ parts, part.utf8ByteSize ≤ maxName) :
    (∃ next, l.walk parts = .ok (some next) ∧ next.shown = shown ∧ next.entry = last) ↔
      ∃ names, Leads parts names l.entry last ∧ shown = names.foldl extend l.shown := by
  induction parts generalizing l with
  | nil =>
      constructor
      · rintro ⟨next, hnext, rfl, rfl⟩
        cases hnext
        exact ⟨[], .here _, rfl⟩
      · rintro ⟨names, hleads, rfl⟩
        cases hleads
        exact ⟨l, rfl, rfl, rfl⟩
  | cons part rest ih =>
      obtain ⟨hpart, hrest⟩ := List.forall_mem_cons.mp hshort
      rw [List.mem_cons, not_or] at hup
      have hpartUp : part ≠ ".." := Ne.symm hup.1
      constructor
      · rintro ⟨next, hwalk, hshown, hlast⟩
        rw [walk] at hwalk
        split at hwalk
        · cases hwalk
        · cases hwalk
        · next middle hmiddle =>
            obtain ⟨name, child, hchoice, hlookup, rfl⟩ :=
              (step_eq_some_iff hpartUp hpart).mp hmiddle
            obtain ⟨names, hleads, hnames⟩ := (ih hup.2 hrest).mp ⟨next, hwalk, hshown, hlast⟩
            exact ⟨name :: names, .down hchoice hlookup hleads, hnames⟩
      · rintro ⟨_, hleads, hshown⟩
        cases hleads with
        | @down _ name _ names _ child _ hchoice hlookup hleads =>
            rw [walk, (step_eq_some_iff hpartUp hpart).mpr ⟨name, child, hchoice, hlookup, rfl⟩]
            exact (ih hup.2 hrest).mpr ⟨names, hleads, hshown⟩

end Location

/-! ### The file that a path leads to -/

/-- The file at a place, as it is shown and with its content. -/
def Location.fileAt? (l : Location) : Option (String × List UInt8) :=
  match l.entry with
  | .file content => some (l.shown, content)
  | .directory _ => none

namespace Workspace

variable (w : Workspace) (path : String)

/-- The place that a path starts from. -/
def startOf (p : Path) : Location := if p.isAbsolute then w.topAt p.anchor else w.rootLocation

/-- A path that stays in the working tree leads to the file where its walk ends. -/
theorem resolve_eq : w.resolve path =
    if !(pathOf path).isAbsolute && (pathOf path).parts.contains ".." then
      .error (.outsideWorkspace path)
    else ((w.startOf (pathOf path)).walk (pathOf path).parts).map (·.bind Location.fileAt?) := by
  simp only [resolve, startOf]
  split
  · rfl
  · cases (if (pathOf path).isAbsolute then w.topAt (pathOf path).anchor
      else w.rootLocation).walk (pathOf path).parts with
    | error fault => rfl
    | ok found =>
        cases found with
        | none => rfl
        | some l =>
            obtain ⟨shown, entry, around⟩ := l
            cases entry <;> rfl

end Workspace

end MergeGate
