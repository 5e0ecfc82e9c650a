import MergeGate.Workspace

/-!
# Adding to a file

A record of a run is added at the end of a file. The file is found by a path that may lead up again
with double dots, and the tree with the longer file is put together by the components that are left
without them. This module says that both mean the same place, so that the file holds afterwards what
it held before and the new bytes behind it, and that this fails only where no file can stand.

## Conventions

* `Location.LiesAt`: a place lies below the top of a tree where given components lead.
* `Entry.bytesAt?`: the bytes of the file at a path.
* `Workspace.IsWritable`: a file stands at a path, or could be made there.

## Main results

* `find?_of_placeOf?`: a path leads to where its components without double dots lead.
* `find?_put?`, `exists_put?_concat`: an entry that is put at a path is found there, and it can be
  put below every directory.
* `append_returns_iff`: bytes can be added exactly at the writable paths.
* `bytesAt?_append`: **what a file holds after bytes have been added to it.**
-/

namespace MergeGate

/-! ### Entries at paths -/

namespace Entry

variable {path : List String} {name : String} {e top top' : Entry}

/-- An entry that is set is found under its name. -/
theorem lookup_setChild (name : String) (e : Entry) (children : List (String × Entry)) :
    (setChild name e children).lookup name = some e := by
  induction children with
  | nil => simp [setChild]
  | cons child rest ih =>
      obtain ⟨n, old⟩ := child
      by_cases hn : n = name
      · simp [setChild, hn]
      · have hother : (name == n) = false := by simpa using Ne.symm hn
        simp [setChild, hn, List.lookup_cons, hother, ih]

/-- The entry below another one is looked up in its directory. -/
theorem find?_concat (path : List String) (name : String) (top : Entry) :
    find? (path ++ [name]) top = (find? path top).bind fun e => e.children.lookup name := by
  induction path generalizing top with
  | nil =>
      simp only [List.nil_append, find?, Option.bind_some]
      cases top.children.lookup name <;> rfl
  | cons first path ih =>
      simp only [List.cons_append, find?]
      cases top.children.lookup first with
      | none => rfl
      | some child => exact ih child

/-- An entry that is put at a path is found there. -/
theorem find?_put? (h : e.put? path top = some top') : find? path top' = some e := by
  induction path generalizing top top' with
  | nil =>
      cases h
      rfl
  | cons name rest ih =>
      cases top with
      | file content => cases h
      | directory children =>
          simp only [put?, Option.map_eq_some_iff] at h
          obtain ⟨new, hnew, rfl⟩ := h
          simp only [find?, Entry.children, lookup_setChild]
          exact ih hnew

/-- An entry can be put below every directory. -/
theorem exists_put?_concat {children : List (String × Entry)}
    (h : find? path top = some (.directory children)) (e : Entry) (name : String) :
    ∃ top', e.put? (path ++ [name]) top = some top' := by
  induction path generalizing top with
  | nil =>
      cases h
      exact ⟨_, rfl⟩
  | cons first rest ih =>
      cases top with
      | file content => cases h
      | directory entries =>
          rw [find?] at h
          split at h
          · next child hchild =>
              obtain ⟨new, hnew⟩ := ih h
              have hchild : entries.lookup first = some child := hchild
              exact ⟨.directory (setChild first new entries), by simp [put?, hchild, hnew]⟩
          · cases h

/-- An entry can be put in place of every other one. -/
theorem exists_put?_of_find? {old : Entry} (h : find? path top = some old) (e : Entry) :
    ∃ top', e.put? path top = some top' := by
  rcases List.eq_nil_or_concat path with rfl | ⟨init, name, rfl⟩
  · exact ⟨e, by rw [put?]⟩
  · rw [List.concat_eq_append, find?_concat] at h
    obtain ⟨parent, hparent, hold⟩ := Option.bind_eq_some_iff.mp h
    cases parent with
    | file content => cases hold
    | directory children =>
        rw [List.concat_eq_append]
        exact exists_put?_concat hparent e name

/-- The bytes of the file at a path, if there is one. -/
def bytesAt? (top : Entry) (p : Path) : Option (List UInt8) :=
  match top.find? p.settled with
  | some (.file content) => some content
  | _ => none

end Entry

/-! ### Places -/

namespace Location

/-- A place lies below a top where components lead, the last one first. -/
def LiesAt (top : Entry) : List String → Location → Prop
  | [], l => l.entry = top ∧ l.around = []
  | name :: above, l => ∃ outer : Location, LiesAt top above outer ∧
      outer.entry.children.lookup name = some l.entry ∧ l.around = outer.entry :: outer.around

variable {top : Entry} {above parts : List String} {l l' : Location}

/-- Where a place lies does not depend on the path that is shown. -/
theorem LiesAt.congr (h : LiesAt top above l) (hentry : l'.entry = l.entry)
    (haround : l'.around = l.around) : LiesAt top above l' := by
  cases above with
  | nil => exact ⟨hentry.trans h.1, haround.trans h.2⟩
  | cons name above =>
      obtain ⟨outer, houter, hlookup, hl⟩ := h
      exact ⟨outer, houter, hentry ▸ hlookup, haround.trans hl⟩

/-- The place around a place lies one component higher; the top lies in itself. -/
theorem LiesAt.leave (h : LiesAt top above l) : LiesAt top above.tail l.leave := by
  cases above with
  | nil =>
      refine h.congr ?_ ?_ <;> simp only [Location.leave, h.2]
  | cons name above =>
      obtain ⟨outer, houter, -, hl⟩ := h
      refine houter.congr ?_ ?_ <;> simp only [Location.leave, hl]

/-- The place of an entry lies one component lower. -/
theorem LiesAt.enter (h : LiesAt top above l) {name : String} {child : Entry}
    (hchild : l.entry.children.lookup name = some child) :
    LiesAt top (name :: above) (l.enter name child) :=
  ⟨l, h, hchild, rfl⟩

/-- The entry at a place is found where the place lies. -/
theorem LiesAt.find?_eq (h : LiesAt top above l) : top.find? above.reverse = some l.entry := by
  induction above generalizing l with
  | nil => rw [h.1, List.reverse_nil, Entry.find?]
  | cons name above ih =>
      obtain ⟨outer, houter, hlookup, -⟩ := h
      rw [List.reverse_cons, Entry.find?_concat, ih houter, Option.bind_some, hlookup]

/-- Going down step by step leads to where the components without double dots lead. -/
theorem LiesAt.descend (h : LiesAt top above l) (hl : Workspace.descend l parts = some l') :
    top.find? (Path.settle above parts) = some l'.entry := by
  induction parts generalizing above l with
  | nil =>
      obtain rfl : l = l' := Option.some.inj hl
      rw [Path.settle, h.find?_eq]
  | cons part rest ih =>
      rw [Workspace.descend] at hl
      rw [Path.settle]
      split
      · next hup =>
          rw [if_pos hup] at hl
          split at hl
          · exact ih h.leave hl
          · cases hl
      · next hdown =>
          rw [if_neg hdown] at hl
          split at hl
          · next child hchild => exact ih (h.enter hchild) hl
          · cases hl

end Location

namespace Path

/-- A last component that is no double dot stays the last one. -/
theorem settle_concat {name : String} (hname : name ≠ "..") (before parts : List String) :
    settle before (parts ++ [name]) = settle before parts ++ [name] := by
  induction parts generalizing before with
  | nil => simp [settle, hname]
  | cons part rest ih =>
      rw [List.cons_append, settle, settle]
      split
      · exact ih before.tail
      · exact ih (part :: before)

end Path

/-! ### Adding bytes -/

namespace Workspace

variable {w : Workspace} {p : Path} {bytes content : List UInt8} {top : Entry} {l : Location}

/-- A path leads to where its components without double dots lead. -/
theorem find?_of_placeOf? (h : w.placeOf? p = some l) : w.top.find? p.settled = some l.entry := by
  rw [placeOf?] at h
  split at h
  · exact Location.LiesAt.descend ⟨rfl, rfl⟩ h
  · cases h

/-- A step down follows the steps before it. -/
theorem descend_concat (l : Location) (parts : List String) (name : String) :
    descend l (parts ++ [name]) = (descend l parts).bind fun d => descend d [name] := by
  induction parts generalizing l with
  | nil => rw [List.nil_append, descend, Option.bind_some]
  | cons part rest ih =>
      rw [List.cons_append, descend, descend]
      split
      · split
        · exact ih l.leave
        · rfl
      · split
        · exact ih _
        · rfl

/-- Bytes can be added at a path: a file stands there, or nothing does and a directory is there to
hold the file. -/
def IsWritable (w : Workspace) (p : Path) : Prop :=
  (∃ l content, w.placeOf? p = some l ∧ l.entry = .file content) ∨
  w.placeOf? p = none ∧ p.parts ≠ [] ∧
    ∃ l children, w.placeOf? { p with parts := p.parts.dropLast } = some l ∧
      l.entry = .directory children

/-- Where nothing stands at a path but a directory is there to hold it, the path leads on from that
directory by a name that is not there. -/
theorem settled_of_missing {children : List (String × Entry)} (hnone : w.placeOf? p = none)
    (hparts : p.parts ≠ []) (hdir : w.placeOf? { p with parts := p.parts.dropLast } = some l)
    (hl : l.entry = .directory children) :
    ∃ outer name, p.settled = outer ++ [name] ∧ w.top.find? outer = some (.directory children) ∧
      w.top.find? p.settled = none := by
  obtain ⟨init, name, hsplit⟩ := (List.eq_nil_or_concat p.parts).resolve_left hparts
  rw [List.concat_eq_append] at hsplit
  rw [hsplit, List.dropLast_concat] at hdir
  have houter := hl ▸ find?_of_placeOf? hdir
  have hstep : descend l [name] = none := by
    rw [placeOf?] at hnone hdir
    split at hdir
    · next habsolute =>
        have habsolute : p.isAbsolute = true := habsolute
        rw [if_pos habsolute, hsplit, descend_concat] at hnone
        rw [hdir, Option.bind_some] at hnone
        exact hnone
    · cases hdir
  have hname : name ≠ ".." := by
    rintro rfl
    simp [descend, hl, Entry.isDirectory] at hstep
  have hsettled : p.settled = Path.settle [] init ++ [name] := by
    rw [Path.settled, hsplit, Path.settle_concat hname]
  refine ⟨_, name, hsettled, houter, ?_⟩
  rw [hsettled, Entry.find?_concat]
  have houter : w.top.find? (Path.settle [] init) = some (.directory children) := houter
  rw [houter, Option.bind_some]
  cases hlookup : (Entry.directory children).children.lookup name with
  | none => rfl
  | some child =>
      rw [← hl] at hlookup
      simp [descend, hname, hlookup] at hstep

/-- The tree with a file put at a path. -/
theorem putAt_eq_ok_iff : append.putAt w p content = .ok top ↔
    (Entry.file content).put? p.settled w.top = some top := by
  rw [append.putAt]
  cases (Entry.file content).put? p.settled w.top with
  | none => simp
  | some new => simp

/-- Adding bytes to a file puts the longer file in its place, and a file that is not there is made
of the bytes alone. -/
theorem append_eq_ok_iff : w.append p bytes = .ok top ↔
    w.IsWritable p ∧
      (Entry.file ((w.top.bytesAt? p).getD [] ++ bytes)).put? p.settled w.top = some top := by
  cases hplace : w.placeOf? p with
  | some l =>
      have hfound := find?_of_placeOf? hplace
      simp only [append, hplace]
      cases hl : l.entry with
      | file content =>
          have hbytes : w.top.bytesAt? p = some content := by rw [Entry.bytesAt?, hfound, hl]
          have hwritable : w.IsWritable p := .inl ⟨l, content, hplace, hl⟩
          rw [hbytes, Option.getD_some, ← putAt_eq_ok_iff]
          exact (and_iff_right hwritable).symm
      | directory children =>
          refine iff_of_false (by simp) ?_
          rintro ⟨⟨l', content, hl', hcontent⟩ | ⟨hnone, -⟩, -⟩
          · rw [hplace] at hl'
            obtain rfl := Option.some.inj hl'
            rw [hl] at hcontent
            cases hcontent
          · rw [hplace] at hnone
            cases hnone
  | none =>
      have hfile (l : Location) (content : List UInt8) : ¬ (w.placeOf? p = some l ∧
          l.entry = .file content) := by
        rw [hplace]
        simp
      simp only [append, hplace]
      cases hdir : w.placeOf? { p with parts := p.parts.dropLast } with
      | none =>
          refine iff_of_false (by simp) ?_
          rintro ⟨⟨l, content, h⟩ | ⟨-, -, l, children, hl, -⟩, -⟩
          · exact hfile l content h
          · rw [hdir] at hl
            cases hl
      | some l =>
          simp only
          split
          · next hguard =>
              obtain ⟨hisdir, hparts⟩ := Bool.and_eq_true_iff.mp hguard
              have hparts : p.parts ≠ [] := by simpa using hparts
              cases hl : l.entry with
              | file content =>
                  rw [hl] at hisdir
                  cases hisdir
              | directory children =>
                  obtain ⟨outer, name, -, -, hmissing⟩ :=
                    settled_of_missing hplace hparts hdir hl
                  have hbytes : w.top.bytesAt? p = none := by rw [Entry.bytesAt?, hmissing]
                  have hwritable : w.IsWritable p :=
                    .inr ⟨hplace, hparts, l, children, hdir, hl⟩
                  rw [hbytes, Option.getD_none, List.nil_append, ← putAt_eq_ok_iff]
                  exact (and_iff_right hwritable).symm
          · next hguard =>
              refine iff_of_false (by simp) ?_
              rintro ⟨⟨l', content, h⟩ | ⟨-, hparts, l', children, hl', hchildren⟩, -⟩
              · exact hfile l' content h
              · rw [hdir] at hl'
                obtain rfl := Option.some.inj hl'
                simp [hchildren, Entry.isDirectory, hparts] at hguard

/-- **Bytes can be added exactly at the writable paths.** -/
theorem append_returns_iff : (∃ top, w.append p bytes = .ok top) ↔ w.IsWritable p := by
  constructor
  · rintro ⟨top, htop⟩
    exact (append_eq_ok_iff.mp htop).1
  · intro hwritable
    have hput : ∃ top, (Entry.file ((w.top.bytesAt? p).getD [] ++ bytes)).put? p.settled w.top =
        some top := by
      rcases hwritable with ⟨l, content, hl, -⟩ | ⟨hnone, hparts, l, children, hdir, hl⟩
      · exact Entry.exists_put?_of_find? (find?_of_placeOf? hl) _
      · obtain ⟨outer, name, hsettled, houter, -⟩ := settled_of_missing hnone hparts hdir hl
        rw [hsettled]
        exact Entry.exists_put?_concat houter _ name
    obtain ⟨top, htop⟩ := hput
    exact ⟨top, append_eq_ok_iff.mpr ⟨hwritable, htop⟩⟩

/-- **What a file holds after bytes have been added to it**: what it held before, if it was there,
and the bytes behind it. -/
theorem bytesAt?_append (h : w.append p bytes = .ok top) :
    top.bytesAt? p = some ((w.top.bytesAt? p).getD [] ++ bytes) := by
  rw [Entry.bytesAt?, Entry.find?_put? (append_eq_ok_iff.mp h).2]

end Workspace

end MergeGate
