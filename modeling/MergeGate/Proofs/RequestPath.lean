import MergeGate.Proofs.FileFetch
import MergeGate.Proofs.PathNormalForm

/-!
# The path that a request asks for

A client asks for a target below its base. The target is read as a locator of its own, and the
target of that one is written behind the base, without the slashes in front of it. What comes out is
read again, its dots are followed, and it is read once more when it gets its query. This module says
which path remains after all that: the one to which the path of the target leads from the directory
of the base, with everything escaped that may not stand for itself.

Reading a path a second time changes nothing, since a path that has been read has no dots left and
nothing to be escaped. So only the first reading behind the base counts, and there the path is a
directory and a trail that is followed from it.

## Conventions

* `Url.IsRoot`: a locator below which requests are made: it has a scheme and a host, and no query.
* `Url.IsComponent`: a component of a path as a locator has it.
* `Url.directory`: the components of the directory that a locator names.
* `Url.pathPart`: the path at the start of a target, up to a question mark or a number sign.
* `CodeHost.root?`: the locator below which a client asks.

## Main results

* `Url.of_ofParts?`: what the parts of a locator say about it.
* `Url.exists_parts`: a locator with a scheme and a host has a path in normal form.
* `Url.directory_spec`: a base is written as the directory that it names.
* `Url.path_of_below?`, `Url.path_of_withQuery?`: what becomes of a path.
* `CodeHost.path_of_request`: **the path that a request asks for.**
-/

namespace MergeGate

open Text

namespace Url

variable {u v base : Url} {scheme authority path cs tail part : List Char}
  {query fragment : Option (List Char)} {dir parts : List (List Char)}

/-- A locator below which requests are made. -/
structure IsRoot (u : Url) : Prop where
  scheme : u.scheme ≠ ""
  host : u.host ≠ ""
  query : u.query = none

/-- A component of a path as a locator has it: escaped, between two slashes, and not followed. -/
structure IsComponent (part : List Char) : Prop where
  plain : part.all isPathChar = true
  slash : '/' ∉ part
  undotted : ¬ IsDotted part

/-- The components of the directory that a locator names. -/
def directory (u : Url) : List (List Char) := ((splitAt '/' u.target.toList).drop 1).dropLast

/-- The path at the start of a target. -/
def pathPart (cs : List Char) : List Char := cs.takeWhile fun c => c != '?' && c != '#'

/-! ### Reading a path twice -/

/-- Neither a question mark nor a number sign stands for itself in a path. -/
theorem mark_not_mem_of_plain (h : cs.all isPathChar = true) : '?' ∉ cs ∧ '#' ∉ cs := by
  rw [List.all_eq_true] at h
  exact ⟨fun hmem => absurd (h '?' hmem) (by decide), fun hmem => absurd (h '#' hmem) (by decide)⟩

/-- Characters that stand for themselves in a path do not end it. -/
theorem pathPart_append (h : cs.all isPathChar = true) (tail : List Char) :
    pathPart (cs ++ tail) = cs ++ pathPart tail := by
  obtain ⟨hquery, hfragment⟩ := mark_not_mem_of_plain h
  refine List.takeWhile_append_of_pos fun c hc => ?_
  simpa using ⟨ne_of_mem_of_not_mem hc hquery, ne_of_mem_of_not_mem hc hfragment⟩

/-- The components of a path that is followed from a directory are components as a locator has
them. -/
theorem isComponent_of_mem_place (hdir : ∀ part ∈ dir, IsComponent part)
    (h : part ∈ (Trail.ofParts ((splitAt '/' cs).map (percentEncode isPathChar))).place dir) :
    IsComponent part := by
  rcases Trail.of_mem_place h with hmem | ⟨hmem, hdots⟩
  · exact hdir part hmem
  · obtain ⟨raw, hraw, rfl⟩ := List.mem_map.mp hmem
    exact ⟨all_percentEncode raw, slash_not_mem_percentEncode (sublist_of_mem_splitAt hraw).2, hdots⟩

/-- Components are joined to a path of characters that stand for themselves. -/
theorem all_joinWith (h : ∀ part ∈ parts, IsComponent part) :
    (joinWith ['/'] parts).all isPathChar = true := by
  induction parts with
  | nil => rfl
  | cons part parts ih =>
      obtain ⟨hpart, hparts⟩ := List.forall_mem_cons.mp h
      by_cases hne : parts = []
      · rw [hne, joinWith]
        exact hpart.plain
      · have hslash : (['/'] : List Char).all isPathChar = true := by decide
        rw [joinWith_cons hne, List.all_append, List.all_append, hpart.plain, hslash, ih hparts]
        rfl

/-- The components of a path from the top, with the one in front of its first slash. -/
theorem forall_isComponent_cons (h : ∀ part ∈ parts, IsComponent part) :
    ∀ part ∈ [] :: parts, IsComponent part :=
  List.forall_mem_cons.mpr ⟨⟨rfl, List.not_mem_nil, by decide⟩, h⟩

/-- A path in normal form is read as it stands. -/
theorem percentEncode_normalPath (h : ∀ part ∈ parts, IsComponent part) :
    percentEncode isPathChar (normalPath (joinWith ['/'] ([] :: parts))) =
      joinWith ['/'] ([] :: parts) := by
  have hall := forall_isComponent_cons h
  rw [normalPath_of_undotted (List.cons_ne_nil _ _) (fun part hpart => (hall part hpart).slash)
    (fun part hpart => (hall part hpart).undotted), percentEncode_of_plain (all_joinWith hall)]

/-! ### Locators and their parts -/

/-- Behind an authority a path starts with a slash, if there is one. -/
theorem of_pathFits {hasScheme : Bool} (h : pathFits hasScheme true path = true) :
    path = [] ∨ path.head? = some '/' := by
  rw [pathFits, Bool.and_eq_true, Bool.not_true, Bool.false_or, Bool.or_eq_true] at h
  exact h.1.imp List.isEmpty_iff.mp eq_of_beq

/-- What the parts of a locator say about its scheme, its path and its query. -/
theorem of_ofParts? (h : ofParts? scheme authority path query fragment = some v) :
    (v.scheme = "" ↔ scheme = []) ∧
    (v.scheme ≠ "" → v.path.toList = percentEncode isPathChar (normalPath path)) ∧
    (v.host ≠ "" → path = [] ∨ path.head? = some '/') ∧
    v.query = query.map fun q => String.ofList (percentComplete isQueryChar q) := by
  unfold ofParts? at h
  split at h
  dsimp only at h
  split at h
  · next hhost hport =>
    split at h
    · cases h
    · next hfits =>
        cases h
        refine ⟨by simp, fun hscheme => ?_, fun hname => ?_, rfl⟩
        · have hgiven : scheme ≠ [] := by simpa using hscheme
          have hflag : (!scheme.isEmpty) = true := by simpa using hgiven
          rw [String.toList_ofList, percentComplete_isPathChar, hflag, Bool.true_or, if_pos rfl]
        · rw [Bool.not_eq_true, Bool.not_eq_false'] at hfits
          have hgiven : ∀ host : List Char, String.ofList host ≠ "" → (!host.isEmpty) = true :=
            fun host hhost => by simpa using hhost
          rw [hgiven _ hname, Bool.or_true, Bool.true_or] at hfits
          exact of_pathFits hfits
  · cases h

/-- A locator that is read has been put together from its parts. -/
theorem exists_ofParts?_of_parse? {text : String} (h : parse? text = some v) :
    ∃ scheme authority path query fragment,
      ofParts? scheme authority path query fragment = some v := by
  rw [parse?] at h
  split at h
  · cases h
  · exact ⟨_, _, _, _, _, h⟩

/-- A locator with other parts has been put together from its own and those. -/
theorem ofParts?_of_withParts? (h : u.withParts? path query = some v) :
    ofParts? u.scheme.toList u.authority.toList path query (u.fragment.map String.toList) =
      some v := by
  rw [withParts?] at h
  split at h
  · exact h
  · cases h

/-- A mark is found exactly if it is there. -/
theorem marked_eq_none_iff {mark : Char} {until? : Option Char} :
    (marked mark until? (cs.dropWhile (· != mark))).1 = none ↔ mark ∉ cs := by
  induction cs with
  | nil => simp [marked]
  | cons c cs ih =>
      by_cases hc : c = mark
      · simp [hc, marked]
      · have hskip : (c != mark) = true := by simpa using hc
        rw [List.dropWhile_cons, if_pos hskip, ih, List.mem_cons, not_or]
        exact ⟨fun h => ⟨Ne.symm hc, h⟩, fun h => h.2⟩

/-- A locator with another target has the path and the query of that target. -/
theorem ofParts?_of_withTarget? {target : String} (h : u.withTarget? target = some v) :
    ∃ query, (query = none ↔ '?' ∉ target.toList) ∧
      ofParts? u.scheme.toList u.authority.toList (target.toList.takeWhile (· != '?')) query
        (u.fragment.map String.toList) = some v :=
  ⟨_, marked_eq_none_iff, ofParts?_of_withParts? h⟩

/-- The query that a locator is given is written in it. -/
theorem query_of_withQuery? {query : String} (h : u.withQuery? query = some v) :
    v.query = some (String.ofList (percentComplete isQueryChar query.toList)) :=
  (of_ofParts? (ofParts?_of_withParts? h)).2.2.2

/-! ### Bases -/

/-- A path that starts with a slash leads from the top. -/
theorem exists_eq_top_append (h : path.head? = some '/') : ∃ cs, path = directoryText [] ++ cs := by
  cases path with
  | nil => cases h
  | cons c cs => exact ⟨cs, by rw [Option.some.inj h]; rfl⟩

/-- A locator with a scheme and a host has a path in normal form. -/
theorem exists_parts (h : ofParts? scheme authority path query fragment = some v)
    (hscheme : v.scheme ≠ "") (hhost : v.host ≠ "") :
    ∃ parts, (∀ part ∈ parts, IsComponent part) ∧
      v.path.toList = joinWith ['/'] ([] :: parts) := by
  obtain ⟨-, hpath, hstart, -⟩ := of_ofParts? h
  rw [hpath hscheme]
  rcases hstart hhost with rfl | hslash
  · exact ⟨[], by simp, by decide⟩
  · obtain ⟨cs, rfl⟩ := exists_eq_top_append hslash
    refine ⟨(Trail.ofParts ((splitAt '/' cs).map (percentEncode isPathChar))).place [],
      fun part hpart => isComponent_of_mem_place (by simp) hpart, ?_⟩
    have hplain : isPathChar '/' = true := by decide
    have hnil : percentEncode isPathChar [] = [] := rfl
    rw [normalPath_top, percentEncode_joinWith hplain, Trail.ofParts_percentEncode]
    simp [Trail.place, Trail.map, hnil]

/-- The target of a locator without a query is its path, or the top. -/
theorem target_of_no_query (h : u.query = none) :
    u.target.toList = if u.path = "" then ['/'] else u.path.toList := by
  rw [target, h]
  by_cases hpath : u.path = ""
  · simp [hpath]
  · simp [hpath]

/-- A locator asks for something. -/
theorem target_ne_nil (u : Url) : u.target.toList ≠ [] := by
  rw [target, String.toList_append]
  refine List.append_ne_nil_of_left_ne_nil ?_ _
  split
  · decide
  · next hpath => simpa using hpath

/-- A slash at the end of a path from the top is kept. -/
theorem normalPath_concat_slash (cs : List Char) :
    normalPath (directoryText [] ++ cs ++ ['/']) = normalPath (directoryText [] ++ cs) ++ ['/'] := by
  have htop : ¬ IsDotted [] := by decide
  have hconcat : Trail.ofParts (splitAt '/' (cs ++ ['/'])) =
      (Trail.ofParts (splitAt '/' cs)).step [] := by
    rw [splitAt_append_cons, Trail.ofParts, List.foldl_append]
    rfl
  rw [List.append_assoc, normalPath_top, hconcat, Trail.place_step_of_undotted htop,
    joinWith_directory (List.cons_ne_nil _ _), joinWith, List.append_nil, normalPath_top,
    directoryText_eq_concat]

/-- What stands before a query is what has no question mark. -/
theorem takeWhile_before_query (hplain : '?' ∉ cs) (htail : ∀ c ∈ tail.head?, c = '?') :
    (cs ++ tail).takeWhile (· != '?') = cs :=
  takeWhile_append_of_stops (fun c hc => by simpa using ne_of_mem_of_not_mem hc hplain)
    fun c hc => by simpa using htail c hc

/-- A locator as a directory ends with a slash, if it has no query. -/
theorem getLast?_target_of_asDirectory? (h : u.asDirectory? = some base) (hroot : base.IsRoot) :
    base.target.toList.getLast? = some '/' := by
  rw [asDirectory?] at h
  split at h
  · next hlast =>
      cases h
      exact hlast
  -- without a query the slash has been put behind the path
  obtain ⟨query, hmark, hparts⟩ := ofParts?_of_withTarget? h
  obtain ⟨-, hpath, hstart, hquery⟩ := of_ofParts? hparts
  have hplain : '?' ∉ (u.target ++ "/").toList := hmark.mp (by simpa [hroot.query] using hquery.symm)
  have hwhole : (u.target ++ "/").toList.takeWhile (· != '?') = u.target.toList ++ ['/'] := by
    have hend := takeWhile_before_query hplain (by simp : ∀ c ∈ ([] : List Char).head?, c = '?')
    rw [List.append_nil] at hend
    rw [hend, String.toList_append]
    rfl
  rw [hwhole] at hpath hstart
  have htop := (hstart hroot.host).resolve_left (by simp)
  rw [List.head?_append_of_ne_nil _ (target_ne_nil u)] at htop
  obtain ⟨cs, hcs⟩ := exists_eq_top_append htop
  have hslash : percentEncode isPathChar ['/'] = ['/'] := by decide
  have hpath := hpath hroot.scheme
  rw [hcs, normalPath_concat_slash, percentEncode_append, hslash] at hpath
  have hgiven : base.path ≠ "" := by
    intro hempty
    simp [hempty] at hpath
  rw [target_of_no_query hroot.query, if_neg hgiven, hpath, List.getLast?_concat]

/-- A base has a path in normal form. -/
theorem exists_parts_of_base {text : String} (h : (parse? text).bind asDirectory? = some base)
    (hroot : base.IsRoot) :
    ∃ parts, (∀ part ∈ parts, IsComponent part) ∧
      base.path.toList = joinWith ['/'] ([] :: parts) := by
  obtain ⟨u, hu, hbase⟩ := Option.bind_eq_some_iff.mp h
  rw [asDirectory?] at hbase
  split at hbase
  · cases hbase
    obtain ⟨_, _, _, _, _, hofParts⟩ := exists_ofParts?_of_parse? hu
    exact exists_parts hofParts hroot.scheme hroot.host
  · obtain ⟨_, -, hofParts⟩ := ofParts?_of_withTarget? hbase
    exact exists_parts hofParts hroot.scheme hroot.host

/-- A base is written as a directory. -/
theorem exists_directory {text : String} (h : (parse? text).bind asDirectory? = some base)
    (hroot : base.IsRoot) :
    ∃ dir, (∀ part ∈ dir, IsComponent part) ∧ base.target.toList = directoryText dir := by
  obtain ⟨u, -, hbase⟩ := Option.bind_eq_some_iff.mp h
  have hlast := getLast?_target_of_asDirectory? hbase hroot
  obtain ⟨parts, hparts, hpath⟩ := exists_parts_of_base h hroot
  rcases List.eq_nil_or_concat parts with rfl | ⟨dir, last, rfl⟩
  · have hempty : base.path = "" := by
      rw [← String.ofList_toList (s := base.path), hpath]
      rfl
    exact ⟨[], by simp, by rw [target_of_no_query hroot.query, if_pos hempty]; rfl⟩
  · rw [List.concat_eq_append] at hparts hpath
    rw [joinWith_directory (List.cons_ne_nil _ _), joinWith] at hpath
    have hgiven : base.path ≠ "" := by
      intro hempty
      simp [hempty, directoryText] at hpath
    rw [target_of_no_query hroot.query, if_neg hgiven, hpath] at hlast ⊢
    -- the slash at the end is in no component, so the last component is empty
    have hempty : last = [] := by
      by_contra hne
      rw [List.getLast?_append_of_ne_nil _ hne] at hlast
      exact (hparts last (by simp)).slash (List.mem_of_getLast? hlast)
    exact ⟨dir, fun part hpart => hparts part (List.mem_append_left _ hpart),
      by rw [hempty, List.append_nil]⟩

/-- A base is written as the directory that it names. -/
theorem directory_spec {text : String} (h : (parse? text).bind asDirectory? = some base)
    (hroot : base.IsRoot) :
    (∀ part ∈ base.directory, IsComponent part) ∧
      base.target.toList = directoryText base.directory := by
  obtain ⟨dir, hdir, htarget⟩ := exists_directory h hroot
  have hsplit := splitAt_directory (fun part hpart => (hdir part hpart).slash) []
  rw [List.append_nil] at hsplit
  have hdirectory : base.directory = dir := by
    rw [directory, htarget, hsplit, List.drop_one, List.tail_cons]
    exact List.dropLast_concat
  rw [hdirectory]
  exact ⟨hdir, htarget⟩

/-! ### What becomes of a path -/

/-- A directory is written with characters that stand for themselves. -/
theorem all_directoryText (hdir : ∀ part ∈ dir, IsComponent part) :
    (directoryText dir).all isPathChar = true := by
  have hslash : (['/'] : List Char).all isPathChar = true := by decide
  rw [directoryText_eq_concat, List.all_append, all_joinWith (forall_isComponent_cons hdir), hslash]
  rfl

/-- The path of a target starts as the target does. -/
theorem eq_of_head?_pathPart {c d : Char} (h : (pathPart (c :: cs)).head? = some d) : c = d := by
  rw [pathPart, List.takeWhile_cons] at h
  split at h
  · exact Option.some.inj h
  · cases h

/-- The path of a locator without a scheme and an authority is escaped as it stands. -/
theorem path_of_bare (h : ofParts? [] [] path query fragment = some v) :
    v.path.toList = percentEncode isPathChar path := by
  have hbare : ofParts? [] [] path query fragment =
      if !pathFits false false path then none
      else some {
        path := String.ofList (percentComplete isPathChar path)
        query := query.map fun q => String.ofList (percentComplete isQueryChar q)
        fragment := fragment.map fun f => String.ofList (percentComplete isFragmentChar f) } := rfl
  rw [hbare] at h
  split at h
  · cases h
  · cases h
    rw [String.toList_ofList, percentComplete_isPathChar]

/-- What a locator with a path asks for starts with that path, and a query may follow. -/
theorem exists_target_eq (h : u.path ≠ "") :
    ∃ tail, (∀ c ∈ tail.head?, c = '?') ∧ u.target.toList = u.path.toList ++ tail := by
  have hempty : u.path.isEmpty = false := by simpa using h
  cases hquery : u.query with
  | none => exact ⟨[], by simp, by simp [target, hquery, hempty]⟩
  | some q => exact ⟨'?' :: q.toList, by simp, by simp [target, hquery, hempty]⟩

/-- A text that starts with one slash is read as a path, up to a question mark or a number sign. -/
theorem target_of_parse? {text : String} {c : Char} (htext : text.toList = '/' :: c :: cs)
    (hc : c ≠ '/') (h : parse? text = some v) :
    ∃ tail, (∀ c ∈ tail.head?, c = '?') ∧
      v.target.toList = percentEncode isPathChar (pathPart text.toList) ++ tail := by
  have hscheme : splitScheme ('/' :: c :: cs) = ([], '/' :: c :: cs) := rfl
  have hauthority : splitAuthorityPart ('/' :: c :: cs) = ([], '/' :: c :: cs) := by
    rw [splitAuthorityPart.eq_2 _ fun rest hrest => hc (List.cons.inj (List.cons.inj hrest).2).1]
  rw [parse?] at h
  dsimp only at h
  split at h
  · cases h
  rw [htext, hscheme] at h
  dsimp only at h
  rw [hauthority] at h
  have hpath := path_of_bare h
  have hstart : pathPart ('/' :: c :: cs) = '/' :: pathPart (c :: cs) := rfl
  have hgiven : v.path ≠ "" := by
    have hplain : isPathChar '/' = true := by decide
    intro hempty
    rw [hempty, ← pathPart, hstart, percentEncode_cons, if_pos hplain] at hpath
    cases hpath
  rw [htext, pathPart, ← hpath]
  exact exists_target_eq hgiven

/-- Where a scheme is kept, the dots in a new path are followed. -/
theorem path_of_same_scheme (h : ofParts? u.scheme.toList authority path query fragment = some v)
    (hscheme : u.scheme ≠ "") :
    v.scheme ≠ "" ∧ v.path.toList = percentEncode isPathChar (normalPath path) := by
  obtain ⟨hgiven, hpath, -, -⟩ := of_ofParts? h
  have hscheme' : v.scheme ≠ "" := by
    rw [Ne, hgiven]
    simpa using hscheme
  exact ⟨hscheme', hpath hscheme'⟩

/-- A target below a base is the path to which its own path leads from there. -/
theorem path_of_below? {target : String} (hdir : ∀ part ∈ dir, IsComponent part)
    (hbase : base.target.toList = directoryText dir) (hscheme : base.scheme ≠ "")
    (htarget : target.toList = '/' :: (percentEncode isPathChar cs ++ tail))
    (hstart : (percentEncode isPathChar cs ++ tail).head? ≠ some '/')
    (htail : ∀ c ∈ tail.head?, c = '?') (h : base.below? target = some v) :
    v.scheme ≠ "" ∧ v.path.toList = joinWith ['/'] ([] ::
      (Trail.ofParts ((splitAt '/' cs).map (percentEncode isPathChar))).place dir) := by
  obtain ⟨query, -, hparts⟩ := ofParts?_of_withTarget? h
  obtain ⟨hkept, hread⟩ := path_of_same_scheme hparts hscheme
  have hskip : target.toList.dropWhile (· == '/') = percentEncode isPathChar cs ++ tail := by
    rw [htarget, List.dropWhile_cons_of_pos rfl]
    cases hrest : percentEncode isPathChar cs ++ tail with
    | nil => rfl
    | cons c rest =>
        refine List.dropWhile_cons_of_neg fun hc => hstart ?_
        rw [hrest, List.head?_cons, eq_of_beq hc]
  have hwhole : (base.target ++ String.ofList (target.toList.dropWhile (· == '/'))).toList =
      directoryText dir ++ percentEncode isPathChar cs ++ tail := by
    rw [String.toList_append, String.toList_ofList, hskip, hbase, List.append_assoc]
  have hall : (directoryText dir ++ percentEncode isPathChar cs).all isPathChar = true := by
    rw [List.all_append, all_directoryText hdir, all_percentEncode]
    rfl
  refine ⟨hkept, ?_⟩
  rw [hread, hwhole, takeWhile_before_query (mark_not_mem_of_plain hall).1 htail,
    normalPath_directory (fun part hpart => (hdir part hpart).slash)
      (fun part hpart => (hdir part hpart).undotted), splitAt_percentEncode]
  refine percentEncode_of_plain (all_joinWith (forall_isComponent_cons fun part hpart => ?_))
  exact isComponent_of_mem_place hdir hpart

/-- A path in normal form stays as it is when a query is put behind it. -/
theorem path_of_withQuery? {query : String} (hparts : ∀ part ∈ parts, IsComponent part)
    (hpath : u.path.toList = joinWith ['/'] ([] :: parts)) (hscheme : u.scheme ≠ "")
    (h : u.withQuery? query = some v) : v.path = u.path := by
  obtain ⟨-, hread⟩ := path_of_same_scheme (ofParts?_of_withParts? h) hscheme
  refine String.toList_injective ?_
  rw [hread, hpath, percentEncode_normalPath hparts]

end Url

namespace CodeHost

open Url

variable {h : CodeHost} {base : Url} {target accept query : String} {r : Request}

/-- The locator below which a client asks. -/
def root? (h : CodeHost) : Option Url := (Url.parse? h.base).bind Url.asDirectory?

/-- A request is made for what its target names below the base, with its query. -/
theorem exists_below_of_request (hr : h.request target accept (some query) = .ok r) :
    ∃ base relative merged, h.root? = some base ∧ parse? target = some relative ∧
      base.below? relative.target = some merged ∧ merged.withQuery? query = some r.url := by
  rw [request] at hr
  split at hr
  · cases hr
  · next base hbase =>
      dsimp only at hr
      split at hr
      · cases hr
      · split at hr
        · cases hr
        · next url hurl =>
            cases hr
            obtain ⟨merged, hmerged, hquery⟩ := Option.bind_eq_some_iff.mp hurl
            obtain ⟨relative, hrelative, hbelow⟩ := Option.bind_eq_some_iff.mp hmerged
            exact ⟨base, relative, merged, hbase, hrelative, hbelow, hquery⟩

/-- The query that a request is made with is written in its locator. -/
theorem query_of_request (hr : h.request target accept (some query) = .ok r) :
    r.url.query = some (String.ofList (percentComplete Url.isQueryChar query.toList)) := by
  obtain ⟨_, _, merged, -, -, -, hquery⟩ := exists_below_of_request hr
  exact query_of_withQuery? hquery

/-- **The path that a request asks for.** It is the one to which the path of the target leads from
the directory of the base, with everything escaped that may not stand for itself. -/
theorem path_of_request {c : Char} {cs : List Char} (hbase : h.root? = some base)
    (hroot : base.IsRoot) (htarget : target.toList = '/' :: c :: cs) (hc : c ≠ '/')
    (hr : h.request target accept (some query) = .ok r) :
    r.url.path.toList = joinWith ['/'] ([] :: (Trail.ofParts
      ((splitAt '/' (pathPart (c :: cs))).map (percentEncode isPathChar))).place base.directory) := by
  obtain ⟨base', relative, merged, hbase', hrelative, hbelow, hquery⟩ := exists_below_of_request hr
  obtain rfl : base = base' := Option.some.inj (hbase.symm.trans hbase')
  obtain ⟨hdir, hwritten⟩ := directory_spec hbase hroot
  obtain ⟨tail, htail, hrel⟩ := target_of_parse? htarget hc hrelative
  have hslash : isPathChar '/' = true := by decide
  have hpart : pathPart target.toList = '/' :: pathPart (c :: cs) := by
    rw [htarget]
    rfl
  rw [hpart, percentEncode_cons, if_pos hslash] at hrel
  have hstart : (percentEncode isPathChar (pathPart (c :: cs)) ++ tail).head? ≠ some '/' := by
    intro hhead
    rw [List.head?_append, Option.or_eq_some_iff] at hhead
    rcases hhead with hhead | ⟨-, hhead⟩
    · exact hc (eq_of_head?_pathPart (head?_of_head?_percentEncode hhead))
    · exact absurd (htail '/' hhead) (by decide)
  obtain ⟨hscheme, hpath⟩ :=
    path_of_below? hdir hwritten hroot.scheme hrel hstart htail hbelow
  rw [path_of_withQuery? (fun part hpart => isComponent_of_mem_place hdir hpart) hpath hscheme
    hquery, hpath]

end CodeHost

end MergeGate
