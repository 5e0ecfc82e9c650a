import MergeGate.Proofs.EntryChoice

/-!
# The order in which directories are listed

A file system lists the entries of a directory in any order it likes, and a tree is kept here with one
such order. This module says that no lookup depends on it: two trees that differ in the order of
listing only are walked alike, step by step, and so a path leads to the same file in both.

## Conventions

* `Entry.Relisted`: the same tree with some of its directories listed in another order.
* `Location.Alike`: the same place in two such trees.

## Main results

* `Relisted.sameEntries`: under each name of a directory the same is found.
* `step_alike`, `descend_alike`: a step from a place leads to the same place.
* `walk_alike`: so does a whole walk.
* `resolve_relisted`: **a path leads to the same file whatever the order of listing.**
-/

namespace MergeGate

namespace Entry

/-- The same tree with directories listed in another order, at any depth and any number of times. The
names of a directory that is listed in another order are distinct. -/
inductive Relisted : Entry → Entry → Prop
  | refl (e : Entry) : Relisted e e
  | order {children children' : List (String × Entry)} :
      (names children).Nodup → children.Perm children' →
      Relisted (.directory children) (.directory children')
  | inside {before after : List (String × Entry)} {name : String} {e e' : Entry} :
      Relisted e e' →
      Relisted (.directory (before ++ (name, e) :: after)) (.directory (before ++ (name, e') :: after))
  | trans {e e' e'' : Entry} : Relisted e e' → Relisted e' e'' → Relisted e e''

variable {children children' : List (String × Entry)} {part name : String} {e e' child : Entry}

/-! ### What is found in a directory -/

/-- Where names are distinct, an entry is found under a name exactly if the directory has it. -/
theorem lookup_eq_some_iff_mem (hnames : (names children).Nodup) :
    children.lookup name = some child ↔ (name, child) ∈ children := by
  induction children with
  | nil => simp
  | cons c rest ih =>
      obtain ⟨first, old⟩ := c
      obtain ⟨hfirst, hrest⟩ := List.nodup_cons.mp hnames
      rw [List.mem_cons, List.lookup_cons]
      by_cases hname : name = first
      · subst hname
        rw [beq_self_eq_true]
        constructor
        · rintro h
          cases h
          exact .inl rfl
        · rintro (h | h)
          · cases h
            rfl
          · exact absurd (List.mem_map_of_mem h) hfirst
      · rw [beq_eq_false_iff_ne.mpr hname, ← ih hrest]
        exact (or_iff_right fun h => hname (Prod.mk.inj h).1).symm

/-- Under each name the same is found in two directories, up to the order of listing. -/
inductive SameEntries : Entry → Entry → Prop
  | file (content : List UInt8) : SameEntries (.file content) (.file content)
  | directory {children children' : List (String × Entry)} :
      (∀ name, Option.Rel Relisted (children.lookup name) (children'.lookup name)) →
      SameEntries (.directory children) (.directory children')

/-- What is found is related to itself. -/
theorem rel_self (found : Option Entry) : Option.Rel Relisted found found := by
  cases found with
  | none => exact .none
  | some e => exact .some (.refl e)

/-- What is found in three orders of listing. -/
theorem rel_trans {a b c : Option Entry} (h : Option.Rel Relisted a b) (h' : Option.Rel Relisted b c) :
    Option.Rel Relisted a c := by
  cases h with
  | none => exact h'
  | some hab =>
      cases h' with
      | some hbc => exact .some (hab.trans hbc)

/-- **Under each name of a directory the same is found**, in whatever order it is listed. -/
theorem Relisted.sameEntries (h : Relisted e e') : SameEntries e e' := by
  induction h with
  | refl e =>
      cases e with
      | file content => exact .file content
      | directory children => exact .directory fun name => rel_self _
  | @order children children' hnames hperm =>
      refine .directory fun name => ?_
      have hnames' : (names children').Nodup := (hperm.map Prod.fst).nodup hnames
      have hsame : children.lookup name = children'.lookup name := by
        ext child
        rw [lookup_eq_some_iff_mem hnames, lookup_eq_some_iff_mem hnames', hperm.mem_iff]
      rw [hsame]
      exact rel_self _
  | @inside before after name e e' h _ =>
      refine .directory fun other => ?_
      rw [List.lookup_append, List.lookup_append, List.lookup_cons, List.lookup_cons]
      cases before.lookup other with
      | some found => exact .some (.refl found)
      | none =>
          cases other == name with
          | true => exact .some h
          | false => exact rel_self _
  | trans _ _ ih ih' =>
      cases ih with
      | file content => exact ih'
      | directory hfound =>
          cases ih' with
          | directory hfound' =>
              exact .directory fun name => rel_trans (hfound name) (hfound' name)

/-- A directory stays a directory. -/
theorem SameEntries.isDirectory_eq (h : SameEntries e e') : e.isDirectory = e'.isDirectory := by
  cases h with
  | file _ => rfl
  | directory _ => rfl

/-- Under each name the same is found, in a file nothing. -/
theorem SameEntries.rel_lookup (h : SameEntries e e') (name : String) :
    Option.Rel Relisted (e.children.lookup name) (e'.children.lookup name) := by
  cases h with
  | file _ => exact .none
  | directory hfound => exact hfound name

section Rel

variable {R : Entry → Entry → Prop}

/-- Where something is found in one order, it is found in the other. -/
theorem exists_of_rel_some {found : Option Entry} (h : Option.Rel R (some e) found) :
    ∃ e', found = some e' ∧ R e e' := by
  cases h with
  | some hrel => exact ⟨_, rfl, hrel⟩

/-- The orders may be exchanged. -/
theorem rel_flip {found found' : Option Entry} (h : Option.Rel R found found') :
    Option.Rel (flip R) found' found := by
  cases h with
  | none => exact .none
  | some hrel => exact .some hrel

/-- A name is one of a directory in whatever order it is listed. -/
theorem mem_names_of_rel (h : ∀ name, Option.Rel R (children.lookup name) (children'.lookup name))
    (hname : name ∈ names children) : name ∈ names children' := by
  obtain ⟨child, hchild⟩ := mem_names_iff.mp hname
  obtain ⟨child', hchild', -⟩ := exists_of_rel_some (hchild ▸ h name)
  exact mem_names_iff.mpr ⟨child', hchild'⟩

/-- A component chooses an entry of the same name in whatever order the directory is listed. -/
theorem exists_choice?_of_rel
    (h : ∀ name, Option.Rel R (children.lookup name) (children'.lookup name))
    (hchoice : choice? part children = some (name, child)) :
    ∃ child', choice? part children' = some (name, child') ∧ R child child' := by
  obtain ⟨hname, hlookup⟩ := choice?_eq_some_iff.mp hchoice
  obtain ⟨child', hlookup', hchild⟩ := exists_of_rel_some (hlookup ▸ h name)
  have hnames (name : String) : name ∈ names children ↔ name ∈ names children' :=
    ⟨mem_names_of_rel h, mem_names_of_rel fun name => rel_flip (h name)⟩
  exact ⟨child', choice?_eq_some_iff.mpr ⟨hname.congr hnames, hlookup'⟩, hchild⟩

/-- What a component chooses is the same in whatever order the directory is listed. -/
theorem rel_choice? (h : ∀ name, Option.Rel R (children.lookup name) (children'.lookup name))
    (part : String) : Option.Rel (fun c c' => c.1 = c'.1 ∧ R c.2 c'.2) (choice? part children)
      (choice? part children') := by
  cases hchoice : choice? part children with
  | some c =>
      obtain ⟨child', hchoice', hchild⟩ := exists_choice?_of_rel h hchoice
      rw [hchoice']
      exact .some ⟨rfl, hchild⟩
  | none =>
      cases hchoice' : choice? part children' with
      | none => exact .none
      | some c =>
          obtain ⟨child, hfirst, -⟩ := exists_choice?_of_rel (fun name => rel_flip (h name)) hchoice'
          rw [hchoice] at hfirst
          cases hfirst

end Rel

end Entry

/-! ### Places -/

namespace Location

open Entry

/-- The same place in two trees that differ in the order of listing. -/
structure Alike (l l' : Location) : Prop where
  shown : l.shown = l'.shown
  entry : Relisted l.entry l'.entry
  around : List.Forall₂ Relisted l.around l'.around

/-- The same is found, or the same is wrong. -/
inductive AlikeFound : Except Fault (Option Location) → Except Fault (Option Location) → Prop
  | fault (fault : Fault) : AlikeFound (.error fault) (.error fault)
  | nothing : AlikeFound (.ok none) (.ok none)
  | place {l l' : Location} : Alike l l' → AlikeFound (.ok (some l)) (.ok (some l'))

variable {l l' : Location} {name : String} {child child' : Entry}

/-- The place of an entry below a place. -/
theorem Alike.enter (h : Alike l l') (name : String) (hchild : Relisted child child') :
    Alike (l.enter name child) (l'.enter name child') :=
  ⟨congrArg (extend · name) h.shown, hchild, .cons h.entry h.around⟩

/-- The place around a place. -/
theorem Alike.leave (h : Alike l l') : Alike l.leave l'.leave := by
  obtain ⟨shown, entry, around⟩ := l
  obtain ⟨shown', entry', around'⟩ := l'
  obtain ⟨rfl, hentry, haround⟩ := h
  cases haround with
  | nil => exact ⟨rfl, hentry, .nil⟩
  | cons houter hrest => exact ⟨rfl, houter, hrest⟩

/-- **A step from a place leads to the same place.** -/
theorem step_alike (h : Alike l l') (part : String) : AlikeFound (l.step part) (l'.step part) := by
  have hentries := h.entry.sameEntries
  generalize he : l.entry = e at hentries
  generalize he' : l'.entry = e' at hentries
  cases hentries with
  | file content =>
      rw [step, step, he, he']
      exact .nothing
  | @directory children children' hfound =>
      rw [step_of_directory he, step_of_directory he']
      split
      · exact .place h.leave
      · split
        · exact .fault _
        · have hchoice := rel_choice? hfound part
          generalize choice? part children = found at hchoice
          generalize choice? part children' = found' at hchoice
          cases hchoice with
          | none => exact .nothing
          | @some c c' hc =>
              obtain ⟨name, child⟩ := c
              obtain ⟨_, child'⟩ := c'
              obtain ⟨rfl, hchild⟩ := hc
              exact .place (h.enter name hchild)

/-- **A walk from a place leads to the same place.** -/
theorem walk_alike (h : Alike l l') (parts : List String) :
    AlikeFound (l.walk parts) (l'.walk parts) := by
  induction parts generalizing l l' with
  | nil => exact .place h
  | cons part rest ih =>
      rw [walk, walk]
      have hstep := step_alike h part
      generalize l.step part = found at hstep
      generalize l'.step part = found' at hstep
      cases hstep with
      | fault fault => exact .fault fault
      | nothing => exact .nothing
      | place hnext => exact ih hnext

/-- At the same place stands the same file. -/
theorem Alike.fileAt?_eq (h : Alike l l') : l.fileAt? = l'.fileAt? := by
  have hentries := h.entry.sameEntries
  rw [fileAt?, fileAt?, h.shown]
  generalize l.entry = e at hentries
  generalize l'.entry = e' at hentries
  cases hentries with
  | file _ => rfl
  | directory _ => rfl

/-- What is found is the same file. -/
theorem AlikeFound.map_fileAt? {found found' : Except Fault (Option Location)}
    (h : AlikeFound found found') :
    found.map (·.bind fileAt?) = found'.map (·.bind fileAt?) := by
  cases h with
  | fault _ => rfl
  | nothing => rfl
  | place hl => exact congrArg Except.ok hl.fileAt?_eq

end Location

/-! ### The working tree -/

namespace Workspace

open Entry Location

variable {w : Workspace} {l l' : Location} {top' : Entry}

/-- Components that are written exactly as the entries are named lead from a place to the same place. -/
theorem descend_alike (h : Alike l l') (parts : List String) :
    Option.Rel Alike (descend l parts) (descend l' parts) := by
  induction parts generalizing l l' with
  | nil => exact .some h
  | cons name rest ih =>
      have hentries := h.entry.sameEntries
      rw [descend, descend, hentries.isDirectory_eq]
      split
      · split
        · exact ih h.leave
        · exact .none
      · have hlookup := hentries.rel_lookup name
        generalize l.entry.children.lookup name = found at hlookup
        generalize l'.entry.children.lookup name = found' at hlookup
        cases hlookup with
        | none => exact .none
        | some hchild => exact ih (h.enter name hchild)

/-- The top of the tree under a shown path. -/
theorem topAt_alike (h : Relisted w.top top') (shown : String) :
    Alike (w.topAt shown) (topAt { w with top := top' } shown) :=
  ⟨rfl, h, .nil⟩

/-- The place of the working tree. -/
theorem rootLocation_alike (h : Relisted w.top top') :
    Alike w.rootLocation (rootLocation { w with top := top' }) := by
  rw [rootLocation, rootLocation, placeOf?, placeOf?]
  split
  · have hplace := descend_alike (topAt_alike h w.root.anchor) w.root.parts
    generalize descend (w.topAt w.root.anchor) w.root.parts = place at hplace
    generalize descend (topAt { w with top := top' } w.root.anchor) w.root.parts = place' at hplace
    cases hplace with
    | none => exact ⟨rfl, .refl _, .nil⟩
    | some hl => exact hl
  · exact ⟨rfl, .refl _, .nil⟩

/-- The place that a path starts from. -/
theorem startOf_alike (h : Relisted w.top top') (p : Path) :
    Alike (w.startOf p) (startOf { w with top := top' } p) := by
  rw [startOf, startOf]
  split
  · exact topAt_alike h p.anchor
  · exact rootLocation_alike h

/-- **A path leads to the same file whatever the order of listing.** -/
theorem resolve_relisted (h : Relisted w.top top') (path : String) :
    resolve { w with top := top' } path = w.resolve path := by
  rw [resolve_eq, resolve_eq]
  split
  · rfl
  · exact ((walk_alike (startOf_alike h (pathOf path)) (pathOf path).parts).map_fileAt?).symm

end Workspace

end MergeGate
