import MergeGate.Proofs.PercentText
import MergeGate.Proofs.RepositoryBounds

/-!
# What a locator makes of the path of a file

The path of a file is put into the text of a locator as it stands, and that text is read again. A
question mark or a number sign in it ends the path there, what looks like an escape is kept as one,
and dots are followed. This module says for which paths the locator that is asked for still names
the file: those without any of these, and no others. The branch is written into the query and comes
through whatever it is.

That no other path comes through is shown by counting. Reading escapes, following dots and cutting
at a mark all make the path that is asked for shorter than the one that is named, component by
component (`Trail.sum_place_le`), so a path of the right length has lost nothing.

## Conventions

* `CodeHost.IsVerbatim`: the path of a file is not changed on its way.
* `CodeHost.writtenPath`: the path of a file in a locator, if it is not, and `CodeHost.namedPath` as
  it is read.
* `CodeHost.AsksFor`: a request asks for a file on a branch.
* `CodeHost.keptLength`: the length of the components that are not followed.

## Main results

* `CodeHost.length_percentDecode_path_le`: the path that is asked for is no longer than what is
  kept.
* `CodeHost.path_eq_named_iff`: **which paths come through.**
* `CodeHost.query_of_fileRequest`: **every branch comes through.**
* `CodeHost.AsksFor.unique`: a request asks for no two files.
-/

namespace MergeGate

open Text

/-! ### Lengths of joined parts -/

namespace Text

variable {parts : List (List Char)}

/-- The length of joined parts, with a separator for each. -/
theorem length_joinWith_add_one (h : parts ≠ []) :
    (joinWith ['/'] parts).length + 1 = (parts.map fun part => part.length + 1).sum := by
  induction parts with
  | nil => exact absurd rfl h
  | cons part parts ih =>
      by_cases hparts : parts = []
      · rw [hparts]
        rfl
      · rw [joinWith_cons hparts, List.map_cons, List.sum_cons, ← ih hparts]
        simp only [List.length_append, List.length_singleton]
        omega

/-- The length of the path along components from the top. -/
theorem length_joinWith_top (parts : List (List Char)) :
    (joinWith ['/'] ([] :: parts)).length = (parts.map fun part => part.length + 1).sum := by
  have hlength := length_joinWith_add_one (List.cons_ne_nil [] parts)
  rw [List.map_cons, List.sum_cons, List.length_nil] at hlength
  omega

/-- Escaping a text does not make it shorter. -/
theorem length_le_percentEncode (plain : Char → Bool) (cs : List Char) :
    cs.length ≤ (percentEncode plain cs).length := by
  induction cs with
  | nil => exact Nat.le_refl _
  | cons c cs ih =>
      rw [percentEncode_cons, List.length_append, List.length_cons]
      split
      · rw [List.length_singleton]
        omega
      · obtain ⟨escape, hchar⟩ := exists_percentChar_eq_cons c
        rw [hchar, List.length_cons]
        omega

end Text

namespace Url

namespace Trail

variable {dir parts : List (List Char)}

/-- One step of a trail adds at most its own component, and a component that is followed nothing. -/
theorem sum_place_step_le (w : List Char → Nat) (t : Trail) (dir : List (List Char))
    (part : List Char) :
    (((t.step part).place dir).map w).sum ≤
      ((t.place dir).map w).sum + if IsDotted part then 0 else w part := by
  by_cases hpart : IsDotted part
  · rw [if_pos hpart, Nat.add_zero]
    rcases hpart with rfl | rfl
    · rw [step_dot]
    · rw [place_step_doubleDot]
      exact ((List.dropLast_sublist _).map w).sum_le_sum fun _ _ => Nat.zero_le _
  · rw [if_neg hpart, place_step_of_undotted hpart, List.map_append, List.sum_append,
      List.map_singleton, List.sum_singleton]

/-- A path adds to a directory at most its components that are not followed. -/
theorem sum_place_le (w : List Char → Nat) (dir parts : List (List Char)) :
    (((ofParts parts).place dir).map w).sum ≤
      (dir.map w).sum + (parts.map fun part => if IsDotted part then 0 else w part).sum := by
  have hfold (t : Trail) : (((parts.foldl step t).place dir).map w).sum ≤
      ((t.place dir).map w).sum +
        (parts.map fun part => if IsDotted part then 0 else w part).sum := by
    induction parts generalizing t with
    | nil => exact Nat.le_refl _
    | cons part parts ih =>
        have hstep := sum_place_step_le w t dir part
        have hrest := ih (t.step part)
        rw [List.foldl_cons, List.map_cons, List.sum_cons]
        omega
  have hall := hfold {}
  rwa [place_empty] at hall

end Trail

/-! ### Reading a path component by component -/

variable {dir parts : List (List Char)}

/-- Parts between slashes that are read have the length of what they are read as. -/
theorem length_percentDecode_top (parts : List (List Char)) :
    (percentDecode (joinWith ['/'] ([] :: parts))).length =
      (parts.map fun part => (percentDecode part).length + 1).sum := by
  rw [percentDecode_joinWith, List.map_cons]
  refine (length_joinWith_top (parts.map percentDecode)).trans ?_
  rw [List.map_map]
  rfl

/-- A directory is read apart from what is below it. -/
theorem percentDecode_directory_append (dir : List (List Char)) (cs : List Char) :
    percentDecode (directoryText dir ++ cs) =
      percentDecode (directoryText dir) ++ percentDecode cs := by
  have hdigit : hexDigit? '/' = none := by decide
  have hread (cs : List Char) := percentDecode_append_cons hdigit (by decide)
    (joinWith ['/'] ([] :: dir)) cs
  have hnil : percentDecode [] = [] := rfl
  rw [directoryText_eq_concat, List.append_assoc, List.singleton_append, hread, hread, hnil,
    List.append_assoc, List.singleton_append]

/-- Escaping a path does not change what is read. -/
theorem percentDecode_percentEncode_path (cs : List Char) :
    percentDecode (percentEncode isPathChar cs) = percentDecode cs :=
  percentDecode_percentEncode_of_kept (by decide) (fun c hc =>
    of_lt_128 (fun c => (hexDigit? c).isSome = true → isPathChar c = true) (by decide)
      (lt_128_of_hexDigit hc) hc) cs

/-- The path at the start of a target is all of it exactly if no mark ends it. -/
theorem pathPart_eq_self_iff {cs : List Char} : pathPart cs = cs ↔ '?' ∉ cs ∧ '#' ∉ cs := by
  rw [pathPart, List.takeWhile_eq_self_iff]
  constructor
  · intro h
    exact ⟨fun hmem => absurd (h '?' hmem) (by decide), fun hmem => absurd (h '#' hmem) (by decide)⟩
  · rintro ⟨hquery, hfragment⟩ c hc
    simpa using ⟨ne_of_mem_of_not_mem hc hquery, ne_of_mem_of_not_mem hc hfragment⟩

end Url

namespace CodeHost

open Url

variable {h : CodeHost} {base : Url} {path ref : String} {r : Request}

/-- The path of a file is not changed on its way: nothing in it ends it, no escape is in it, and no
component is followed. -/
structure IsVerbatim (path : String) : Prop where
  unmarked : '?' ∉ (plainPath path).toList ∧ '#' ∉ (plainPath path).toList
  unescaped : ¬ HasEscape (plainPath path).toList
  undotted : ∀ part ∈ splitAt '/' (plainPath path).toList, ¬ IsDotted part

/-- The path of a file in a locator, behind the files of the repository. -/
def writtenPath (h : CodeHost) (base : Url) (path : String) : List Char :=
  (h.contentsPath base).toList ++ percentEncode isPathChar (plainPath path).toList

/-- The path of a file behind the files of the repository, as it is read. -/
def namedPath (h : CodeHost) (base : Url) (path : String) : List Char :=
  percentDecode (h.contentsPath base).toList ++ (plainPath path).toList

/-- A request asks for the file with a path on a branch, and for nothing besides. -/
structure AsksFor (h : CodeHost) (base : Url) (path ref : String) (r : Request) : Prop where
  path : percentDecode r.url.path.toList = h.namedPath base path
  query : r.url.query.map Query.read = some [("ref", ref)]

/-- The length of the components that are not followed, with a slash for each. -/
def keptLength (parts : List (List Char)) : Nat :=
  (parts.map fun part => if IsDotted part then 0 else part.length + 1).sum

/-! ### The path that is asked for -/

/-- The components of the path of a file have its length up to a mark, and less without those that
are followed. -/
theorem keptLength_fileParts_le (path : String) :
    keptLength (fileParts path) ≤ (pathPart (plainPath path).toList).length + 1 ∧
      ((∃ part ∈ fileParts path, IsDotted part) →
        keptLength (fileParts path) < (pathPart (plainPath path).toList).length + 1) := by
  have hlength := length_joinWith_add_one (splitAt_ne_nil '/' (pathPart (plainPath path).toList))
  rw [joinWith_splitAt, ← fileParts] at hlength
  have hpart : ∀ part ∈ fileParts path,
      (if IsDotted part then 0 else part.length + 1) ≤ part.length + 1 := by
    intro part _
    split
    · exact Nat.zero_le _
    · exact Nat.le_refl _
  rw [hlength]
  refine ⟨List.sum_le_sum hpart, fun ⟨part, hmem, hdots⟩ => ?_⟩
  refine List.sum_lt_sum _ _ hpart ⟨part, hmem, ?_⟩
  rw [if_pos hdots]
  exact Nat.succ_pos _

/-- An escaped component that is read has no more than the characters of the component, and none if
it is followed. -/
theorem readLength_percentEncode_le (part : List Char) :
    (if IsDotted (percentEncode isPathChar part) then 0
      else (percentDecode (percentEncode isPathChar part)).length + 1) ≤
        if IsDotted part then 0 else part.length + 1 := by
  have hdots : IsDotted (percentEncode isPathChar part) ↔ IsDotted part :=
    or_congr percentEncode_eq_dots_iff.1 percentEncode_eq_dots_iff.2
  simp only [hdots, percentDecode_percentEncode_path]
  split
  · exact Nat.le_refl _
  · exact Nat.succ_le_succ (length_percentDecode_le part).1

/-- **Every branch comes through.** -/
theorem query_of_fileRequest (hr : h.fileRequest path ref = .ok r) :
    r.url.query.map Query.read = some [("ref", ref)] := by
  rw [query_of_request hr, Query.percentComplete_write, String.ofList_toList, Option.map_some,
    Query.read_write]

section Locator

variable (hbase : h.root? = some base) (hroot : base.IsRoot) (howner : IsOrdinaryName h.owner)
  (hrepository : IsOrdinaryName h.repository) (hr : h.fileRequest path ref = .ok r)

include hbase hroot howner hrepository hr

/-- The path by which a file is asked for has, when it is read, at most the components of the path
of the file that are not followed, behind the files of the repository. -/
theorem length_percentDecode_path_le :
    (percentDecode r.url.path.toList).length + 1 ≤
      (percentDecode (h.contentsPath base).toList).length + keptLength (fileParts path) := by
  have hnil : percentDecode [] = [] := rfl
  have hdir : (percentDecode (h.contentsPath base).toList).length =
      ((h.contentsDirectory base).map fun part => (percentDecode part).length + 1).sum + 1 := by
    rw [toList_contentsPath (directory_spec hbase hroot).2, directoryText_eq_concat,
      percentDecode_append_cons (by decide) (by decide), hnil, List.length_append,
      length_percentDecode_top, List.length_singleton]
  have hplace := Trail.sum_place_le (fun part => (percentDecode part).length + 1)
    (h.contentsDirectory base) ((fileParts path).map (percentEncode isPathChar))
  have hparts : (((fileParts path).map (percentEncode isPathChar)).map fun part =>
      if IsDotted part then 0 else (percentDecode part).length + 1).sum ≤
        keptLength (fileParts path) := by
    rw [List.map_map]
    exact List.sum_le_sum fun part _ => readLength_percentEncode_le part
  rw [path_of_fileRequest hbase hroot howner hrepository hr, fileTrail,
    ← Trail.ofParts_percentEncode, length_percentDecode_top, hdir]
  omega

/-- A path that no mark ends and that no dots lead elsewhere is asked for behind the files of the
repository. -/
theorem path_of_undotted (hmarks : pathPart (plainPath path).toList = (plainPath path).toList)
    (hdots : ∀ part ∈ fileParts path, ¬ IsDotted part) :
    r.url.path.toList = h.writtenPath base path := by
  have hdouble : ['.', '.'] ∉ fileParts path := fun hmem => hdots _ hmem (.inr rfl)
  have hkept : (fileParts path).filter (fun part => part ≠ ['.']) = fileParts path :=
    List.filter_eq_self.mpr fun part hpart =>
      decide_eq_true fun hdot => hdots part hpart (.inl hdot)
  have hne : (fileParts path).map (percentEncode isPathChar) ≠ [] := by
    simpa [fileParts] using splitAt_ne_nil '/' _
  have hslash : isPathChar '/' = true := by decide
  rw [path_of_fileRequest hbase hroot howner hrepository hr, writtenPath,
    toList_contentsPath (directory_spec hbase hroot).2, fileTrail_of_no_doubleDot hdouble, hkept,
    Trail.place, Nat.sub_zero, List.take_length, List.reverse_reverse, joinWith_directory hne,
    ← percentEncode_joinWith hslash, fileParts, joinWith_splitAt, hmarks]

/-- **Which paths come through.** -/
theorem path_eq_named_iff :
    percentDecode r.url.path.toList = h.namedPath base path ↔ IsVerbatim path := by
  have hread (hmarks : pathPart (plainPath path).toList = (plainPath path).toList)
      (hdots : ∀ part ∈ fileParts path, ¬ IsDotted part) :
      percentDecode r.url.path.toList = h.namedPath base path ↔
        ¬ HasEscape (plainPath path).toList := by
    rw [path_of_undotted hbase hroot howner hrepository hr hmarks hdots, writtenPath, namedPath,
      toList_contentsPath (directory_spec hbase hroot).2, percentDecode_directory_append,
      percentDecode_percentEncode_path, List.append_cancel_left_eq, percentDecode_eq_self_iff]
  constructor
  · intro hpath
    -- nothing has been lost, since the path that is asked for is as long as the one that is named
    have hlength := length_percentDecode_path_le hbase hroot howner hrepository hr
    obtain ⟨hkept, hlost⟩ := keptLength_fileParts_le path
    have hsublist : (pathPart (plainPath path).toList).Sublist (plainPath path).toList :=
      List.takeWhile_sublist _
    have hwhole := hsublist.length_le
    rw [hpath, namedPath, List.length_append] at hlength
    have hmarks : pathPart (plainPath path).toList = (plainPath path).toList :=
      hsublist.eq_of_length (by omega)
    have hdots : ∀ part ∈ fileParts path, ¬ IsDotted part := fun part hmem hpart => by
      have hless := hlost ⟨part, hmem, hpart⟩
      omega
    refine ⟨pathPart_eq_self_iff.mp hmarks, (hread hmarks hdots).mp hpath, ?_⟩
    rwa [fileParts, hmarks] at hdots
  · rintro ⟨hmarks, hescape, hdots⟩
    have hmarks := pathPart_eq_self_iff.mpr hmarks
    refine (hread hmarks ?_).mpr hescape
    rwa [fileParts, hmarks]

/-- A request asks for a file exactly if the path of the file comes through. -/
theorem asksFor_iff : h.AsksFor base path ref r ↔ IsVerbatim path :=
  ⟨fun hasks => (path_eq_named_iff hbase hroot howner hrepository hr).mp hasks.path,
    fun hverbatim => ⟨(path_eq_named_iff hbase hroot howner hrepository hr).mpr hverbatim,
      query_of_fileRequest hr⟩⟩

end Locator

/-- A request asks for no two files. -/
theorem AsksFor.unique {path' ref' : String} (hasks : h.AsksFor base path ref r)
    (hasks' : h.AsksFor base path' ref' r) : plainPath path = plainPath path' ∧ ref = ref' := by
  have hpath := hasks.path.symm.trans hasks'.path
  have hquery := hasks.query.symm.trans hasks'.query
  rw [namedPath, namedPath, List.append_cancel_left_eq] at hpath
  refine ⟨String.toList_injective hpath, ?_⟩
  simpa using hquery

end CodeHost

end MergeGate
