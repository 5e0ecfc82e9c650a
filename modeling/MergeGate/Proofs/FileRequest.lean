import MergeGate.Proofs.FileLocator

/-!
# Whether the file that is fetched is the one that is named

A file is fetched by one request, if its locator can be put together. That is a matter of lengths
and of control characters: which scheme and which authority a locator has does not depend on its
path, so a client that can ask for one file can ask for every other one.

So every file whose path comes through is asked for under its own name, and no other file is.

## Conventions

* `Url.SamePlace`: two locators differ at most in their paths and their queries.
* `Url.HasNoControls`: a text has no control characters.
* `CodeHost.CanBeNamed`: a file on a branch can be named in a locator.
* `CodeHost.HasRegularParts`: a path has no component that is empty or followed.

## Main results

* `Url.exists_withParts?`: what can be given one path can be given every other one.
* `CodeHost.exists_fileRequest_iff`: which files can be asked for.
* `CodeHost.fetch_asksFor_iff`: **whether the file that is fetched is the one that is named.**
-/

namespace MergeGate

open Text

namespace Url

variable {u u' v base : Url} {scheme authority path path' cs : List Char}
  {query query' fragment : Option (List Char)} {others text target : String} {c : Char}

/-! ### Texts that may be in a locator -/

/-- A text has no control characters. -/
def HasNoControls (cs : List Char) : Prop :=
  (cs.all fun c => 0x20 ≤ c.toNat && c.toNat ≠ 0x7F) = true

instance (cs : List Char) : Decidable (HasNoControls cs) :=
  inferInstanceAs (Decidable (_ = true))

/-- A text may be a part of a locator if it is not too long and has no control characters. -/
theorem isAdmissible_iff : isAdmissible cs = true ↔ cs.length ≤ maxLength ∧ HasNoControls cs := by
  rw [isAdmissible, Bool.and_eq_true, decide_eq_true_eq, HasNoControls]

/-- A text of characters that stand for themselves has no control characters. -/
theorem HasNoControls.of_plain (h : cs.all (isPlainBut others) = true) : HasNoControls cs := by
  refine List.all_eq_true.mpr fun c hc => ?_
  have hplain := List.all_eq_true.mp h c hc
  simp only [isPlainBut, Bool.and_eq_true, decide_eq_true_eq] at hplain ⊢
  omega

/-- What is read as a locator may be one. -/
theorem isAdmissible_of_parse? (h : parse? text = some v) : isAdmissible text.toList = true := by
  rw [parse?] at h
  split at h
  · cases h
  · next hadmissible => simpa using hadmissible

/-- What is put together to a locator may be a part of one. -/
theorem isAdmissible_of_withParts? (h : u.withParts? path query = some v) :
    isAdmissible u.scheme.toList = true ∧ isAdmissible u.authority.toList = true ∧
      isAdmissible path = true ∧ isAdmissible (query.getD []) = true ∧
        isAdmissible ((u.fragment.map String.toList).getD []) = true := by
  rw [withParts?] at h
  split at h
  · next hall =>
      simpa only [List.all_cons, List.all_nil, Bool.and_true, Bool.and_eq_true] using hall
  · cases h

/-! ### Locators at one place -/

/-- Two locators differ at most in their paths and their queries. -/
structure SamePlace (u v : Url) : Prop where
  scheme : u.scheme = v.scheme
  authority : u.authority = v.authority
  fragment : u.fragment = v.fragment

/-- A locator is at its own place. -/
theorem SamePlace.refl (u : Url) : u.SamePlace u := ⟨rfl, rfl, rfl⟩

/-- Whether a scheme and an authority make a locator does not depend on the path, if it leads from
the top. -/
theorem exists_ofParts? (h : ofParts? scheme authority path query fragment = some v)
    (hscheme : scheme ≠ []) (hpath : path'.head? = some '/') (query' : Option (List Char)) :
    ∃ v', ofParts? scheme authority path' query' fragment = some v' ∧ v'.SamePlace v := by
  have hgiven : (!scheme.isEmpty) = true := by simpa using hscheme
  have hfits (hasAuthority : Bool) : pathFits true hasAuthority path' = true := by
    simp [pathFits, hpath]
  unfold ofParts? at h ⊢
  split at h
  dsimp only at h ⊢
  split at h
  · simp only [hgiven, hfits, Bool.not_true, Bool.false_eq_true, if_false] at h ⊢
    split at h
    · cases h
    · cases h
      exact ⟨_, rfl, rfl, rfl, rfl⟩
  · cases h

/-- What can be given one path can be given every other one that leads from the top. -/
theorem exists_withParts? (h : u.withParts? path query = some v) (hsame : u'.SamePlace u)
    (hscheme : u.scheme ≠ "") (hpath : path'.head? = some '/')
    (hadmissible : isAdmissible path' = true) (query' : Option (List Char))
    (hquery : isAdmissible (query'.getD []) = true) :
    ∃ v', u'.withParts? path' query' = some v' ∧ v'.SamePlace v := by
  obtain ⟨hscheme', hauthority, -, -, hfragment⟩ := isAdmissible_of_withParts? h
  have hall : [u.scheme.toList, u.authority.toList, path', query'.getD [],
      (u.fragment.map String.toList).getD []].all isAdmissible = true := by
    simp only [List.all_cons, List.all_nil, Bool.and_true, Bool.and_eq_true]
    exact ⟨hscheme', hauthority, hadmissible, hquery, hfragment⟩
  rw [withParts?, hsame.scheme, hsame.authority, hsame.fragment, if_pos hall]
  exact exists_ofParts? (ofParts?_of_withParts? h) (by simpa using hscheme) hpath query'

/-! ### Targets without marks -/

/-- A text that starts with one slash and has no mark is read as a path. -/
theorem exists_parse?_of_unmarked (htext : text.toList = '/' :: c :: cs) (hc : c ≠ '/')
    (hmarks : pathPart text.toList = text.toList) (hadmissible : isAdmissible text.toList = true) :
    ∃ v, parse? text = some v ∧ v.target.toList = percentEncode isPathChar text.toList := by
  have hscheme : splitScheme text.toList = ([], text.toList) := by
    rw [htext]
    rfl
  have hauthority : splitAuthorityPart text.toList = ([], text.toList) := by
    rw [htext,
      splitAuthorityPart.eq_2 _ fun rest hrest => hc (List.cons.inj (List.cons.inj hrest).2).1]
  rw [pathPart] at hmarks
  have hrest : (text.toList.dropWhile fun c => c != '?' && c != '#') = [] :=
    List.dropWhile_eq_nil_iff.mpr (List.takeWhile_eq_self_iff.mp hmarks)
  have hbare : ofParts? [] [] text.toList none none =
      if !pathFits false false text.toList then none
      else some { path := String.ofList (percentComplete isPathChar text.toList) } := rfl
  have hfits : pathFits false false text.toList = true := by
    simp [pathFits, htext, hc]
  have hparse : parse? text =
      some { path := String.ofList (percentEncode isPathChar text.toList) } := by
    simp only [parse?, hadmissible, hscheme, hauthority, hmarks, hrest, marked, hbare, hfits,
      percentComplete_isPathChar, Bool.not_true, Bool.false_eq_true, if_false]
  have hslash : isPathChar '/' = true := by decide
  have hgiven : String.ofList (percentEncode isPathChar text.toList) ≠ "" := by
    rw [htext, percentEncode_cons, if_pos hslash]
    simp
  refine ⟨_, hparse, ?_⟩
  rw [target_of_no_query rfl, if_neg hgiven, String.toList_ofList]

/-- A target without a question mark is put behind a base without its slash. -/
theorem below?_of_unmarked (htarget : target.toList = '/' :: cs) (hstart : cs.head? ≠ some '/')
    (hmark : '?' ∉ base.target.toList ++ cs) :
    base.below? target = base.withParts? (base.target.toList ++ cs) none := by
  have hskip : target.toList.dropWhile (· == '/') = cs := by
    rw [htarget, List.dropWhile_cons_of_pos rfl]
    refine dropWhile_append_of_stops (a := []) (fun _ hc => by cases hc) fun c hc => ?_
    rw [beq_eq_false_iff_ne]
    rintro rfl
    exact hstart hc
  have hplain : ∀ c ∈ base.target.toList ++ cs, (c != '?') = true :=
    fun c hc => by simpa using ne_of_mem_of_not_mem hc hmark
  rw [below?, withTarget?, hskip, String.toList_append, String.toList_ofList,
    List.takeWhile_eq_self_iff.mpr hplain, List.dropWhile_eq_nil_iff.mpr hplain]
  rfl

end Url

namespace CodeHost

open Url

variable {h : CodeHost} {base relative merged url : Url} {target accept query : String}
  {path ref path₀ ref₀ : String} {r r₀ : Request}

/-! ### Requests that can be made -/

/-- A request is made if its locator can be put together and its token can be sent. -/
theorem request_of_parts (hbase : h.root? = some base)
    (htoken : (("Bearer " ++ h.token).toList.all fun c => c.toNat < 128) = true)
    (hrelative : parse? target = some relative) (hbelow : base.below? relative.target = some merged)
    (hquery : merged.withQuery? query = some url) :
    h.request target accept (some query) =
      .ok { url, authorization := "Bearer " ++ h.token, accept } := by
  rw [root?] at hbase
  simp only [request, hbase, htoken, hrelative, Option.bind_some, hbelow, hquery, Bool.not_true,
    Bool.false_eq_true, if_false]

/-- A request that is made sends its token. -/
theorem isAscii_of_request {query : Option String} (hr : h.request target accept query = .ok r) :
    (("Bearer " ++ h.token).toList.all fun c => c.toNat < 128) = true := by
  rw [request] at hr
  split at hr
  · cases hr
  · dsimp only at hr
    split at hr
    · cases hr
    · next hascii => simpa using hascii

/-- A file on a branch can be named in a locator: its path has no control characters, and neither
the path nor the query is too long. -/
structure CanBeNamed (h : CodeHost) (base : Url) (path ref : String) : Prop where
  chars : HasNoControls (plainPath path).toList
  path : (h.writtenPath base path).length ≤ Url.maxLength
  ref : (Query.write [("ref", ref)]).length ≤ Url.maxLength

/-- A path has components, none of which is empty or followed. -/
def HasRegularParts (path : String) : Prop :=
  ∀ part ∈ splitAt '/' (plainPath path).toList, part ≠ [] ∧ ¬ IsDotted part

instance (path : String) : Decidable (HasRegularParts path) :=
  inferInstanceAs (Decidable (∀ part ∈ splitAt '/' (plainPath path).toList,
    part ≠ [] ∧ ¬ IsDotted part))

/-! ### The target of a file -/

/-- The components between the base and the files of the repository, with a slash behind each. -/
def contentsFront (h : CodeHost) : List Char := h.contentsParts.flatMap (· ++ ['/'])

/-- The target by which a file is asked for. -/
theorem toList_fileTarget (h : CodeHost) (path : String) :
    (h.repositoryPath ++ "/contents/" ++ plainPath path).toList =
      '/' :: (h.contentsFront ++ (plainPath path).toList) := by
  simp [repositoryPath, contentsFront, contentsParts]

/-- The files of the repository are below the base. -/
theorem toList_contentsPath_eq (h : CodeHost) (base : Url) :
    (h.contentsPath base).toList = base.target.toList ++ h.contentsFront := by
  simp [contentsPath, contentsFront, contentsParts]

/-- What stands between the base and the files of the repository stands for itself in a path. -/
theorem all_contentsFront (howner : IsOrdinaryName h.owner)
    (hrepository : IsOrdinaryName h.repository) : h.contentsFront.all isPathChar = true :=
  (Bool.and_eq_true_iff.mp
    (all_directoryText (isComponent_of_mem_contentsParts howner hrepository))).2

/-- The target of a file has no mark if its path has none. -/
theorem pathPart_fileTarget (howner : IsOrdinaryName h.owner)
    (hrepository : IsOrdinaryName h.repository) (hverbatim : IsVerbatim path) :
    pathPart (h.repositoryPath ++ "/contents/" ++ plainPath path).toList =
      (h.repositoryPath ++ "/contents/" ++ plainPath path).toList := by
  have hfront := mark_not_mem_of_plain (all_contentsFront howner hrepository)
  rw [pathPart_eq_self_iff, toList_fileTarget]
  simpa using ⟨⟨hfront.1, hverbatim.unmarked.1⟩, hfront.2, hverbatim.unmarked.2⟩

/-- The target of a file has control characters exactly if its path has. -/
theorem hasNoControls_fileTarget_iff (howner : IsOrdinaryName h.owner)
    (hrepository : IsOrdinaryName h.repository) :
    HasNoControls (h.repositoryPath ++ "/contents/" ++ plainPath path).toList ↔
      HasNoControls (plainPath path).toList := by
  have hslash : HasNoControls ['/'] := by decide
  have hfront : HasNoControls h.contentsFront := .of_plain (all_contentsFront howner hrepository)
  rw [toList_fileTarget, ← List.singleton_append]
  simp only [HasNoControls, List.all_append, Bool.and_eq_true] at hslash hfront ⊢
  exact ⟨fun hall => hall.2.2, fun hpath => ⟨hslash, hfront, hpath⟩⟩

/-- The target of a file may be a locator. -/
theorem CanBeNamed.isAdmissible_fileTarget (hnamed : h.CanBeNamed base path ref)
    (howner : IsOrdinaryName h.owner) (hrepository : IsOrdinaryName h.repository) :
    isAdmissible (h.repositoryPath ++ "/contents/" ++ plainPath path).toList = true := by
  have hlength := hnamed.path
  have hgiven := List.length_pos_iff.mpr (target_ne_nil base)
  have hescaped := length_le_percentEncode isPathChar (plainPath path).toList
  rw [writtenPath, toList_contentsPath_eq, List.length_append, List.length_append] at hlength
  have hchars := (hasNoControls_fileTarget_iff howner hrepository).mpr hnamed.chars
  refine isAdmissible_iff.mpr ⟨?_, hchars⟩
  rw [toList_fileTarget, List.length_cons, List.length_append]
  omega

/-! ### The path of a file that comes through -/

/-- The path of a file leads from the top. -/
theorem head?_writtenPath (hbase : h.root? = some base) (hroot : base.IsRoot) (path : String) :
    (h.writtenPath base path).head? = some '/' := by
  rw [writtenPath, toList_contentsPath (directory_spec hbase hroot).2]
  rfl

section Target

variable (hbase : h.root? = some base) (hroot : base.IsRoot) (howner : IsOrdinaryName h.owner)
  (hrepository : IsOrdinaryName h.repository)

include hbase hroot howner hrepository

/-- The components of the path below which the files of the repository are. -/
theorem isComponent_of_mem_contentsDirectory :
    ∀ part ∈ h.contentsDirectory base, IsComponent part := by
  intro part hpart
  rcases List.mem_append.mp hpart with hpart | hpart
  · exact (directory_spec hbase hroot).1 part hpart
  · exact isComponent_of_mem_contentsParts howner hrepository part hpart

/-- The path of a file is written with characters that stand for themselves. -/
theorem all_writtenPath (path : String) : (h.writtenPath base path).all isPathChar = true := by
  rw [writtenPath, toList_contentsPath (directory_spec hbase hroot).2, List.all_append,
    all_directoryText (isComponent_of_mem_contentsDirectory hbase hroot howner hrepository),
    all_percentEncode]
  rfl

/-- A path that comes through has nothing to be followed. -/
theorem IsVerbatim.percentEncode_normalPath (hverbatim : IsVerbatim path) :
    percentEncode isPathChar (normalPath (h.writtenPath base path)) = h.writtenPath base path := by
  have hslash : isPathChar '/' = true := by decide
  have hne : (splitAt '/' (plainPath path).toList).map (percentEncode isPathChar) ≠ [] := by
    simpa using splitAt_ne_nil '/' _
  have hwritten : h.writtenPath base path = joinWith ['/'] ([] :: (h.contentsDirectory base ++
      (splitAt '/' (plainPath path).toList).map (percentEncode isPathChar))) := by
    rw [joinWith_directory hne, ← percentEncode_joinWith hslash, joinWith_splitAt, writtenPath,
      toList_contentsPath (directory_spec hbase hroot).2]
  rw [hwritten]
  refine Url.percentEncode_normalPath fun part hpart => ?_
  rcases List.mem_append.mp hpart with hpart | hpart
  · exact isComponent_of_mem_contentsDirectory hbase hroot howner hrepository part hpart
  · obtain ⟨raw, hraw, rfl⟩ := List.mem_map.mp hpart
    refine ⟨all_percentEncode raw, slash_not_mem_percentEncode (sublist_of_mem_splitAt hraw).2, ?_⟩
    exact fun hdots => hverbatim.undotted raw hraw
      (hdots.imp percentEncode_eq_dots_iff.1.mp percentEncode_eq_dots_iff.2.mp)

/-- The target of a file is put behind the base. -/
theorem below?_fileTarget
    (hrelative : relative.target.toList =
      percentEncode isPathChar (h.repositoryPath ++ "/contents/" ++ plainPath path).toList) :
    base.below? relative.target = base.withParts? (h.writtenPath base path) none := by
  have hslash : isPathChar '/' = true := by decide
  have hmark := mark_not_mem_of_plain (all_writtenPath hbase hroot howner hrepository path)
  rw [toList_fileTarget, percentEncode_cons, if_pos hslash, percentEncode_append,
    percentEncode_of_plain (all_contentsFront howner hrepository)] at hrelative
  rw [writtenPath, toList_contentsPath_eq, List.append_assoc] at hmark ⊢
  exact below?_of_unmarked hrelative (fun hhead => absurd (Option.some.inj hhead) (by decide))
    hmark.1

/-- The locator of a file whose path comes through is put together from its path. -/
theorem withParts?_of_fileRequest (hverbatim : IsVerbatim path)
    (hr : h.fileRequest path ref = .ok r) :
    ∃ merged, base.withParts? (h.writtenPath base path) none = some merged ∧
      merged.withQuery? (Query.write [("ref", ref)]) = some r.url := by
  obtain ⟨base', relative, merged, hbase', hrelative, hbelow, hquery⟩ := exists_below_of_request hr
  obtain rfl : base = base' := Option.some.inj (hbase.symm.trans hbase')
  obtain ⟨relative', hrelative', htarget⟩ := exists_parse?_of_unmarked (toList_fileTarget h path)
    (by decide) (pathPart_fileTarget howner hrepository hverbatim)
    (isAdmissible_of_parse? hrelative)
  obtain rfl : relative = relative' := Option.some.inj (hrelative.symm.trans hrelative')
  rw [below?_fileTarget hbase hroot howner hrepository htarget] at hbelow
  exact ⟨merged, hbelow, hquery⟩

/-- A file whose path comes through and that is asked for can be named in a locator. -/
theorem canBeNamed_of_fileRequest (hverbatim : IsVerbatim path)
    (hr : h.fileRequest path ref = .ok r) : h.CanBeNamed base path ref := by
  obtain ⟨_, _, _, -, hrelative, -, -⟩ := exists_below_of_request hr
  obtain ⟨merged, hbelow, hquery⟩ :=
    withParts?_of_fileRequest hbase hroot howner hrepository hverbatim hr
  obtain ⟨-, hcontrols⟩ := isAdmissible_iff.mp (isAdmissible_of_parse? hrelative)
  obtain ⟨-, -, hpath, -, -⟩ := isAdmissible_of_withParts? hbelow
  obtain ⟨-, -, -, hwritten, -⟩ := isAdmissible_of_withParts? hquery
  exact {
    chars := (hasNoControls_fileTarget_iff howner hrepository).mp hcontrols
    path := (isAdmissible_iff.mp hpath).1
    ref := String.length_toList.symm.trans_le (isAdmissible_iff.mp hwritten).1 }

/-- **Which files can be asked for.** A client that can ask for one file can ask for every one whose
path comes through and that can be named in a locator, and for no other one with such a path. -/
theorem exists_fileRequest_iff (hready : h.fileRequest path₀ ref₀ = .ok r₀)
    (hverbatim : IsVerbatim path) :
    (∃ r, h.fileRequest path ref = .ok r) ↔ h.CanBeNamed base path ref := by
  refine ⟨fun ⟨r, hr⟩ => canBeNamed_of_fileRequest hbase hroot howner hrepository hverbatim hr,
    fun hnamed => ?_⟩
  obtain ⟨base', relative₀, merged₀, hbase', -, hbelow₀, hquery₀⟩ := exists_below_of_request hready
  obtain rfl : base = base' := Option.some.inj (hbase.symm.trans hbase')
  have htop := head?_writtenPath hbase hroot path
  have hadmissible : isAdmissible (h.writtenPath base path) = true := isAdmissible_iff.mpr
    ⟨hnamed.path, .of_plain (all_writtenPath hbase hroot howner hrepository path)⟩
  have hwritten : isAdmissible (Query.write [("ref", ref)]).toList = true := isAdmissible_iff.mpr
    ⟨String.length_toList.trans_le hnamed.ref, .of_plain (Query.all_write _)⟩
  -- the target is read as a path and put behind the base
  obtain ⟨relative, hrelative, htarget⟩ := exists_parse?_of_unmarked (toList_fileTarget h path)
    (by decide) (pathPart_fileTarget howner hrepository hverbatim)
    (hnamed.isAdmissible_fileTarget howner hrepository)
  obtain ⟨merged, hmerged, hsame⟩ := exists_withParts? hbelow₀ (.refl base) hroot.scheme htop
    hadmissible none rfl
  have hbelow := (below?_fileTarget hbase hroot howner hrepository htarget).trans hmerged
  obtain ⟨hscheme, hpath⟩ := path_of_same_scheme (ofParts?_of_withParts? hmerged) hroot.scheme
  rw [IsVerbatim.percentEncode_normalPath hbase hroot howner hrepository hverbatim] at hpath
  -- what comes out is given the query
  obtain ⟨url, hurl, -⟩ := exists_withParts? hquery₀ hsame (hsame.scheme ▸ hscheme) (hpath ▸ htop)
    (hpath ▸ hadmissible) (some (Query.write [("ref", ref)]).toList) hwritten
  exact ⟨_, request_of_parts hbase (isAscii_of_request hready) hrelative hbelow hurl⟩

end Target

/-! ### Files under their own names -/

/-- A file is fetched by no more than one request. -/
theorem requests_of_mem {transport : Transport}
    (hr : r ∈ (h.fetch transport path ref).requests) :
    (h.fetch transport path ref).requests = [r] := by
  rw [fetch_of_request (fileRequest_of_mem hr)]

/-- **Whether the file that is fetched is the one that is named.** A client that can ask for one
file makes one request for a file, with its path behind the files of the repository and with the
branch, exactly if the path comes through and can be named in a locator: no question mark and no
number sign in it ends it, it has no escape, no component of it is followed, and it has no control
characters and is not too long. Every request that is made is the only one and has the branch as its
query, whatever the path is. So two files whose paths come through are never asked for by the same
request. -/
theorem fetch_asksFor_iff (hbase : h.root? = some base) (hroot : base.IsRoot)
    (howner : IsOrdinaryName h.owner) (hrepository : IsOrdinaryName h.repository)
    (hready : h.fileRequest path₀ ref₀ = .ok r₀) (transport : Transport) (path ref : String) :
    ((∃ r, (h.fetch transport path ref).requests = [r] ∧ h.AsksFor base path ref r) ↔
      IsVerbatim path ∧ h.CanBeNamed base path ref) ∧
    (∀ r ∈ (h.fetch transport path ref).requests,
      (h.fetch transport path ref).requests = [r] ∧
      r.url.query.map Query.read = some [("ref", ref)] ∧
      (percentDecode r.url.path.toList = h.namedPath base path ↔ IsVerbatim path)) ∧
    ∀ path' ref', IsVerbatim path → IsVerbatim path' →
      (∃ r ∈ (h.fetch transport path ref).requests,
        r ∈ (h.fetch transport path' ref').requests) →
      plainPath path = plainPath path' ∧ ref = ref' := by
  have hcan (hverbatim : IsVerbatim path) :
      (∃ r, h.fileRequest path ref = .ok r) ↔ h.CanBeNamed base path ref :=
    exists_fileRequest_iff hbase hroot howner hrepository hready hverbatim
  refine ⟨⟨fun ⟨r, hr, hasks⟩ => ?_, fun ⟨hverbatim, hnamed⟩ => ?_⟩, fun r hr => ?_, ?_⟩
  · have hrequest := fileRequest_of_mem (hr ▸ List.mem_singleton_self r)
    have hverbatim := (asksFor_iff hbase hroot howner hrepository hrequest).mp hasks
    exact ⟨hverbatim, (hcan hverbatim).mp ⟨r, hrequest⟩⟩
  · obtain ⟨r, hrequest⟩ := (hcan hverbatim).mpr hnamed
    refine ⟨r, ?_, (asksFor_iff hbase hroot howner hrepository hrequest).mpr hverbatim⟩
    rw [fetch_of_request hrequest]
  · have hrequest := fileRequest_of_mem hr
    exact ⟨requests_of_mem hr, query_of_fileRequest hrequest,
      path_eq_named_iff hbase hroot howner hrepository hrequest⟩
  · rintro path' ref' hverbatim hverbatim' ⟨r, hr, hr'⟩
    have hasks := (asksFor_iff hbase hroot howner hrepository (fileRequest_of_mem hr)).mpr hverbatim
    have hasks' :=
      (asksFor_iff hbase hroot howner hrepository (fileRequest_of_mem hr')).mpr hverbatim'
    exact hasks.unique hasks'

/-- The client of the public code host can ask for a file. -/
theorem exists_fileRequest_publicHost : ∃ r, publicHost.fileRequest "a" "main" = .ok r := by
  have hok : (publicHost.fileRequest "a" "main").toOption.isSome = true := by decide +kernel
  cases hrequest : publicHost.fileRequest "a" "main" with
  | ok r => exact ⟨r, rfl⟩
  | error fault =>
      rw [hrequest] at hok
      cases hok

/-- A path with a blank and an umlaut on a branch with an ampersand comes through. -/
theorem fetch_asksFor_iff_umlaut :
    ∃ r, (publicHost.fetch sameAnswer "./docs/für alle.yml" "a&b").requests = [r] ∧
      publicHost.AsksFor publicRoot "./docs/für alle.yml" "a&b" r := by
  obtain ⟨howner, hrepository⟩ := isOrdinaryName_publicHost
  obtain ⟨r₀, hready⟩ := exists_fileRequest_publicHost
  have hverbatim : IsVerbatim "./docs/für alle.yml" :=
    ⟨by decide, not_hasEscape_of_unmarked (by decide), by decide⟩
  have hnamed : publicHost.CanBeNamed publicRoot "./docs/für alle.yml" "a&b" :=
    ⟨by decide +kernel, by decide +kernel, by decide +kernel⟩
  obtain ⟨hasks, -, -⟩ := fetch_asksFor_iff root?_publicHost isRoot_publicRoot howner hrepository
    hready sameAnswer "./docs/für alle.yml" "a&b"
  exact hasks.mpr ⟨hverbatim, hnamed⟩

/-- The text behind a question mark is not asked for. -/
theorem requests_cut_publicHost :
    (publicHost.fetch sameAnswer "a?b.yml" "main").requests =
      (publicHost.fetch sameAnswer "a" "main").requests := by
  decide +kernel

/-- Not every file is fetched under its own name, and one request may be made for two files. -/
theorem not_forall_fetch_asksFor :
    ¬ (∀ (h : CodeHost) (base : Url) (transport : Transport) (path ref : String) (r : Request),
      h.root? = some base → base.IsRoot → IsOrdinaryName h.owner → IsOrdinaryName h.repository →
        HasRegularParts path → HasNoControls (plainPath path).toList →
          r ∈ (h.fetch transport path ref).requests → h.AsksFor base path ref r) ∧
    ¬ (∀ (h : CodeHost) (base : Url) (transport : Transport) (path path' ref : String)
      (r : Request), h.root? = some base → base.IsRoot → IsOrdinaryName h.owner →
        IsOrdinaryName h.repository → HasRegularParts path → HasRegularParts path' →
          HasNoControls (plainPath path).toList → HasNoControls (plainPath path').toList →
            r ∈ (h.fetch transport path ref).requests →
              r ∈ (h.fetch transport path' ref).requests → plainPath path = plainPath path') := by
  obtain ⟨howner, hrepository⟩ := isOrdinaryName_publicHost
  obtain ⟨r, hrequest⟩ := exists_fileRequest_publicHost
  have hr : r ∈ (publicHost.fetch sameAnswer "a" "main").requests := by
    rw [fetch_of_request hrequest]
    exact List.mem_singleton_self r
  have hcut : r ∈ (publicHost.fetch sameAnswer "a?b.yml" "main").requests := by
    rwa [requests_cut_publicHost]
  have hparts : HasRegularParts "a" ∧ HasRegularParts "a?b.yml" := by decide +kernel
  have hchars : HasNoControls (plainPath "a").toList ∧
      HasNoControls (plainPath "a?b.yml").toList := by
    decide +kernel
  constructor
  · intro hall
    have hasks := hall publicHost publicRoot sameAnswer "a?b.yml" "main" r root?_publicHost
      isRoot_publicRoot howner hrepository hparts.2 hchars.2 hcut
    have hverbatim := (asksFor_iff root?_publicHost isRoot_publicRoot howner hrepository
      (fileRequest_of_mem hcut)).mp hasks
    exact hverbatim.unmarked.1 (by decide)
  · intro hall
    have hsame := hall publicHost publicRoot sameAnswer "a?b.yml" "a" "main" r root?_publicHost
      isRoot_publicRoot howner hrepository hparts.2 hparts.1 hchars.2 hchars.1 hcut hr
    exact absurd hsame (by decide)

end CodeHost

end MergeGate
