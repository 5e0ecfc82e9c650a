import MergeGate.Proofs.RequestPath

/-!
# Whether the files that are fetched are those of the repository

A file is asked for by its path behind the place where the repository has its files. The path is
the author's or the caller's; it is put there as it stands, but for a leading dot and leading slashes,
and the dots in it are followed like those of every other path. This module says where that leads:
below the place of the files exactly if the path does not climb out of it, or climbs out and spells
the directories that it has left, and ends with a further component. A path that climbs further asks
the code host for something else, with the same token.

## Conventions

* `CodeHost.IsOrdinaryName`: letters, digits and three marks, and not only dots that are followed.
* `CodeHost.contentsPath`: the path below which the files of the repository are, and
  `CodeHost.contentsDirectory` its components.
* `CodeHost.fileParts`: the components of the path of a file, up to a question mark or a number sign.
* `CodeHost.fileTrail`: where they lead, with everything escaped that may not stand for itself.

## Main results

* `path_of_fileRequest`: the path by which a file is asked for.
* `contentsPath_prefix_iff`: which paths are below the files of the repository.
* `fetch_staysBelow_iff`: **which files are asked for below the repository.**
-/

namespace MergeGate

open Text

namespace CodeHost

open Url

variable {h : CodeHost} {base : Url} {name path ref : String} {r : Request}

/-- A character of an ordinary name. -/
def isNameChar (c : Char) : Bool :=
  isAsciiLetter c || isAsciiDigit c || c == '-' || c == '_' || c == '.'

/-- An ordinary name of an owner or a repository. -/
structure IsOrdinaryName (name : String) : Prop where
  chars : name.toList.all isNameChar = true
  undotted : name ≠ "." ∧ name ≠ ".."

/-- The path below which the files of the repository are. -/
def contentsPath (h : CodeHost) (base : Url) : String :=
  base.target ++ "repos/" ++ h.owner ++ "/" ++ h.repository ++ "/contents/"

/-- The components between the base and the files of the repository. -/
def contentsParts (h : CodeHost) : List (List Char) :=
  ["repos".toList, h.owner.toList, h.repository.toList, "contents".toList]

/-- The components of the path below which the files of the repository are. -/
def contentsDirectory (h : CodeHost) (base : Url) : List (List Char) :=
  base.directory ++ h.contentsParts

/-- The components of the path of a file. -/
def fileParts (path : String) : List (List Char) := splitAt '/' (pathPart (plainPath path).toList)

/-- Where the path of a file leads from the files of the repository. -/
def fileTrail (path : String) : Trail :=
  (Trail.ofParts (fileParts path)).map (percentEncode isPathChar)

/-! ### Ordinary names -/

/-- The characters of ordinary names stand for themselves in a path, and none is a slash. -/
theorem isPathChar_of_isNameChar {c : Char} (hc : isNameChar c = true) :
    isPathChar c = true ∧ c ≠ '/' := by
  have hascii : c.toNat < 128 := by
    simp only [isNameChar, isAsciiLetter, isAsciiDigit, Bool.or_eq_true, Bool.and_eq_true,
      decide_eq_true_eq, beq_iff_eq] at hc
    rcases hc with ((((⟨-, hle⟩ | ⟨-, hle⟩) | ⟨-, hle⟩) | rfl) | rfl) | rfl
    · exact lt_128_of_le hle (by decide)
    · exact lt_128_of_le hle (by decide)
    · exact lt_128_of_le hle (by decide)
    · decide
    · decide
    · decide
  exact of_lt_128 (fun c => isNameChar c = true → isPathChar c = true ∧ c ≠ '/') (by decide)
    hascii hc

/-- An ordinary name is a component of a path as a locator has it. -/
theorem IsOrdinaryName.isComponent (hname : IsOrdinaryName name) : IsComponent name.toList := by
  have hchars := List.all_eq_true.mp hname.chars
  refine ⟨List.all_eq_true.mpr fun c hc => (isPathChar_of_isNameChar (hchars c hc)).1,
    fun hslash => (isPathChar_of_isNameChar (hchars '/' hslash)).2 rfl, ?_⟩
  rintro (hdot | hdots)
  · exact hname.undotted.1 (String.toList_injective hdot)
  · exact hname.undotted.2 (String.toList_injective hdots)

/-- The components between the base and the files of the repository are such as a locator has. -/
theorem isComponent_of_mem_contentsParts (howner : IsOrdinaryName h.owner)
    (hrepository : IsOrdinaryName h.repository) : ∀ part ∈ h.contentsParts, IsComponent part := by
  have hrepos : IsOrdinaryName "repos" := ⟨by decide, by decide⟩
  have hcontents : IsOrdinaryName "contents" := ⟨by decide, by decide⟩
  simpa [contentsParts] using ⟨hrepos.isComponent, howner.isComponent, hrepository.isComponent,
    hcontents.isComponent⟩

/-! ### The path of a file -/

/-- A file is asked for by no other request than its own. -/
theorem fileRequest_of_mem {transport : Transport}
    (hr : r ∈ (h.fetch transport path ref).requests) : h.fileRequest path ref = .ok r := by
  cases hrequest : h.fileRequest path ref with
  | ok own =>
      rw [fetch_of_request hrequest, List.mem_singleton] at hr
      rw [hr]
  | error fault =>
      rw [fileRequest] at hrequest
      rw [fetch, ask, hrequest] at hr
      cases hr

/-- A file is asked for by the components between the base and the files of the repository, and then
those of its path. -/
theorem splitAt_fileTarget (howner : IsOrdinaryName h.owner)
    (hrepository : IsOrdinaryName h.repository) (path : String) :
    ∃ cs, (h.repositoryPath ++ "/contents/" ++ plainPath path).toList = '/' :: 'r' :: cs ∧
      splitAt '/' (pathPart ('r' :: cs)) = h.contentsParts ++ fileParts path := by
  have hparts := isComponent_of_mem_contentsParts howner hrepository
  have hfront : (h.repositoryPath ++ "/contents/").toList = directoryText h.contentsParts := by
    simp [repositoryPath, directoryText, contentsParts]
  refine ⟨(directoryText h.contentsParts).drop 2 ++ (plainPath path).toList, ?_, ?_⟩
  · rw [String.toList_append, hfront]
    rfl
  · have hpart := pathPart_append (all_directoryText hparts) (plainPath path).toList
    have hsplit := congrArg (splitAt '/') hpart
    rw [splitAt_directory fun part hpart => (hparts part hpart).slash] at hsplit
    exact (List.cons.inj hsplit).2

/-- **The path by which a file is asked for.** It is the one to which the path of the file leads from
the files of the repository. -/
theorem path_of_fileRequest (hbase : h.root? = some base) (hroot : base.IsRoot)
    (howner : IsOrdinaryName h.owner) (hrepository : IsOrdinaryName h.repository)
    (hr : h.fileRequest path ref = .ok r) :
    r.url.path.toList = joinWith ['/'] ([] :: (fileTrail path).place (h.contentsDirectory base)) := by
  have hparts := isComponent_of_mem_contentsParts howner hrepository
  obtain ⟨cs, htarget, hsplit⟩ := splitAt_fileTarget howner hrepository path
  have hescaped : h.contentsParts.map (percentEncode isPathChar) = h.contentsParts :=
    (List.map_congr_left fun part hpart => percentEncode_of_plain (hparts part hpart).plain).trans
      (List.map_id _)
  rw [path_of_request hbase hroot htarget (by decide) hr, hsplit, List.map_append, hescaped,
    Trail.place_append fun part hpart => (hparts part hpart).undotted,
    Trail.ofParts_percentEncode]
  rfl

/-! ### Below the files of the repository -/

/-- The path below which the files of the repository are, as a directory. -/
theorem toList_contentsPath (hbase : base.target.toList = directoryText base.directory) :
    (h.contentsPath base).toList = directoryText (h.contentsDirectory base) := by
  rw [contentsDirectory, directoryText_append, ← hbase]
  simp [contentsPath, contentsParts]

/-- A file is below the files of the repository exactly if its path ends below them. -/
theorem contentsPath_prefix_iff (hbase : h.root? = some base) (hroot : base.IsRoot)
    (howner : IsOrdinaryName h.owner) (hrepository : IsOrdinaryName h.repository)
    (hr : h.fileRequest path ref = .ok r) :
    (h.contentsPath base).toList <+: r.url.path.toList ↔
      (fileTrail path).EndsBelow (h.contentsDirectory base) := by
  obtain ⟨hdir, hwritten⟩ := directory_spec hbase hroot
  have hcontents : ∀ part ∈ h.contentsDirectory base, IsComponent part := by
    intro part hpart
    rcases List.mem_append.mp hpart with hpart | hpart
    · exact hdir part hpart
    · exact isComponent_of_mem_contentsParts howner hrepository part hpart
  have hplace : ∀ part ∈ (fileTrail path).place (h.contentsDirectory base), IsComponent part := by
    rw [fileTrail, ← Trail.ofParts_percentEncode]
    exact fun part hpart => isComponent_of_mem_place hcontents hpart
  rw [toList_contentsPath hwritten, path_of_fileRequest hbase hroot howner hrepository hr,
    directoryText_prefix_iff (fun part hpart => (hcontents part hpart).slash)
      fun part hpart => (hplace part hpart).slash]
  simp only [Trail.place_eq_append_iff, Trail.EndsBelow]

/-- Without a double dot the path of a file leads down along its components other than dots. -/
theorem fileTrail_of_no_doubleDot (h : ['.', '.'] ∉ fileParts path) :
    fileTrail path = { up := 0, down := (((fileParts path).filter fun part => part ≠ ['.']).map
      (percentEncode isPathChar)).reverse } := by
  rw [fileTrail, Trail.ofParts_of_no_doubleDot h, Trail.map, List.map_reverse]

/-- **Which files are asked for below the repository.** Every request for a file asks for the place to
which the path of the file leads from the files of the repository. It is below them exactly if the
path ends below them: it has left none of the directories on the way to them, or it goes down the
same ones again, and then goes on. If it has left none it is so exactly if it goes down at all. Without
a double dot it leaves none, and what is asked for is its components other than dots, in their order. -/
theorem fetch_staysBelow_iff (hbase : h.root? = some base) (hroot : base.IsRoot)
    (howner : IsOrdinaryName h.owner) (hrepository : IsOrdinaryName h.repository)
    {transport : Transport} (hr : r ∈ (h.fetch transport path ref).requests) :
    r.url.path.toList =
      joinWith ['/'] ([] :: (fileTrail path).place (h.contentsDirectory base)) ∧
    ((h.contentsPath base).toList <+: r.url.path.toList ↔
      (fileTrail path).EndsBelow (h.contentsDirectory base)) ∧
    ((fileTrail path).up = 0 →
      ((h.contentsPath base).toList <+: r.url.path.toList ↔ (fileTrail path).down ≠ [])) ∧
    (['.', '.'] ∉ fileParts path → (∃ part ∈ fileParts path, part ≠ ['.']) →
      r.url.path.toList = (h.contentsPath base).toList ++ joinWith ['/']
        (((fileParts path).filter fun part => part ≠ ['.']).map (percentEncode isPathChar))) := by
  have hrequest := fileRequest_of_mem hr
  have hpath := path_of_fileRequest hbase hroot howner hrepository hrequest
  have hbelow := contentsPath_prefix_iff hbase hroot howner hrepository hrequest
  refine ⟨hpath, hbelow, fun hup => ?_, fun hdots hnamed => ?_⟩
  · rw [hbelow, Trail.endsBelow_iff_of_up_eq_zero hup]
  · have hne : ((fileParts path).filter fun part => part ≠ ['.']).map (percentEncode isPathChar) ≠
        [] := by
      obtain ⟨part, hpart, hdot⟩ := hnamed
      simpa using ⟨part, hpart, hdot⟩
    rw [hpath, toList_contentsPath (directory_spec hbase hroot).2, fileTrail_of_no_doubleDot hdots,
      Trail.place, Nat.sub_zero, List.take_length, List.reverse_reverse, joinWith_directory hne]

/-- A client of the public code host. -/
def publicHost : CodeHost := { token := "t", owner := "o", repository := "r", base := publicBase }

/-- The locator below which it asks. -/
def publicRoot : Url := { scheme := "https", host := "api.github.com" }

/-- An answer to every request. -/
def sameAnswer : Transport := fun _ => .answer 200 "private"

/-- The client asks below its base. -/
theorem root?_publicHost : publicHost.root? = some publicRoot := by decide +kernel

/-- Its base has a scheme and a host. -/
theorem isRoot_publicRoot : publicRoot.IsRoot := ⟨by decide, by decide, rfl⟩

/-- The names of its repository are ordinary. -/
theorem isOrdinaryName_publicHost :
    IsOrdinaryName publicHost.owner ∧ IsOrdinaryName publicHost.repository :=
  ⟨⟨by decide, by decide⟩, by decide, by decide⟩

/-- A path with a dot stays below the files of the repository. -/
theorem fetch_staysBelow_iff_dotted :
    ∃ r, (publicHost.fetch sameAnswer "docs/./rules.yml" "main").requests = [r] ∧
      (publicHost.contentsPath publicRoot).toList <+: r.url.path.toList ∧
      r.url.path = "/repos/o/r/contents/docs/rules.yml" := by
  have hlength : (publicHost.fetch sameAnswer "docs/./rules.yml" "main").requests.length = 1 := by
    decide +kernel
  obtain ⟨r, hr⟩ := List.length_eq_one_iff.mp hlength
  obtain ⟨howner, hrepository⟩ := isOrdinaryName_publicHost
  have hmem : r ∈ (publicHost.fetch sameAnswer "docs/./rules.yml" "main").requests := by
    rw [hr]
    exact List.mem_singleton_self r
  obtain ⟨hpath, -, hbelow, -⟩ :=
    fetch_staysBelow_iff root?_publicHost isRoot_publicRoot howner hrepository hmem
  refine ⟨r, hr, (hbelow (by decide +kernel)).mpr (by decide +kernel), ?_⟩
  refine String.toList_injective (hpath.trans ?_)
  decide +kernel

/-- A path that climbs is asked for outside the repository. -/
theorem not_forall_fetch_staysBelow :
    ¬ ∀ (h : CodeHost) (base : Url) (transport : Transport) (path ref : String) (r : Request),
      h.root? = some base → base.IsRoot → IsOrdinaryName h.owner → IsOrdinaryName h.repository →
        r ∈ (h.fetch transport path ref).requests →
          (h.contentsPath base).toList <+: r.url.path.toList := by
  intro hall
  have hasked : ((publicHost.fetch sameAnswer "../../../../user" "main").requests.map
      fun r => r.url.path) = ["/user"] := by
    decide +kernel
  obtain ⟨r, hr, hpath⟩ := List.mem_map.mp (hasked ▸ List.mem_singleton_self "/user")
  obtain ⟨howner, hrepository⟩ := isOrdinaryName_publicHost
  have hprefix := hall publicHost publicRoot sameAnswer _ _ r root?_publicHost isRoot_publicRoot
    howner hrepository hr
  rw [hpath] at hprefix
  exact absurd hprefix (by decide +kernel)

end CodeHost

end MergeGate
