import Mathlib
import MergeGate.Proofs.CharacterClass
import MergeGate.Proofs.Trimming
import MergeGate.Proofs.Utf8Text
import MergeGate.Url

/-!
# Paths with their dots followed

In a locator the dots of a path are followed: a component that is one dot stays where it is, and two
dots lead one directory up, except from the top. Below a directory that is given by its components a
path therefore leads so many directories up and from there down along further components. This is
the *trail* of the path, which does not depend on the directory.

The induction is over the components of a path. What has been followed so far is the place to which
the trail so far leads from the directory, and one component more is one step of the trail. That the
top is never left shows in a trail only when it is followed from a directory, which loses no more
components than it has.

Escapes do not matter for this. Dots and slashes stand for themselves in a path, no escape has one,
and an escaped dot is no dot, so a path is followed alike before and after it is escaped.

## Conventions

* `IsDotted`: a component that is followed, one dot or two.
* `Trail`: how far up a path leads, and along which components it leads down from there.
* `Trail.place`: where a trail leads from a directory.
* `Trail.EndsBelow`: a trail ends below the directory from which it is followed.
* `directoryText`: a directory as it is written, with slashes around its components.

## Main results

* `percentComplete_isPathChar`, `splitAt_percentEncode`: escaping a path escapes its components.
* `followDots_place`: one component after the other.
* `normalPath_directory`: **where a path leads from a directory.**
* `normalPath_of_undotted`: a path without dots is in normal form.
* `directoryText_prefix_iff`: what is below a directory.
* `Trail.ofParts_of_no_doubleDot`: without a double dot a path leads only down.
-/

namespace MergeGate

open Text

/-! ### Escapes in a path -/

namespace Text

variable {plain : Char → Bool} {c d : Char} {cs : List Char}

/-- The hexadecimal digits are ASCII characters. -/
theorem lt_128_of_hexDigit (h : (hexDigit? c).isSome = true) : c.toNat < 128 := by
  by_contra hc
  have hdigit : ¬ c ≤ '9' := fun hle => hc (lt_128_of_le hle (by decide))
  have hsmall : ¬ c ≤ 'f' := fun hle => hc (lt_128_of_le hle (by decide))
  have hcapital : ¬ c ≤ 'F' := fun hle => hc (lt_128_of_le hle (by decide))
  simp [hexDigit?, hdigit, hsmall, hcapital] at h

/-- Escaping a text escapes one character after the other. -/
theorem percentEncode_cons (plain : Char → Bool) (c : Char) (cs : List Char) :
    percentEncode plain (c :: cs) =
      (if plain c then [c] else percentChar c) ++ percentEncode plain cs :=
  List.flatMap_cons

/-- Escaping two texts one after the other escapes each of them. -/
theorem percentEncode_append (plain : Char → Bool) (a b : List Char) :
    percentEncode plain (a ++ b) = percentEncode plain a ++ percentEncode plain b :=
  List.flatMap_append

/-- Where escapes are made of characters that stand for themselves, none has to be kept. -/
theorem percentComplete_eq_percentEncode (hmark : plain '%' = true)
    (hhex : ∀ c, (hexDigit? c).isSome = true → plain c = true) (cs : List Char) :
    percentComplete plain cs = percentEncode plain cs := by
  fun_induction percentComplete plain cs with
  | case1 a b rest hab ih =>
      obtain ⟨ha, hb⟩ := Bool.and_eq_true_iff.mp hab
      simp only [percentEncode_cons, hmark, hhex a ha, hhex b hb, if_true, ih]
      rfl
  | case2 a b rest hab ih => rw [percentEncode_cons, ih]
  | case3 c rest hc ih => rw [percentEncode_cons, ih]
  | case4 => rfl

/-- A text of characters that stand for themselves is left alone. -/
theorem percentEncode_of_plain (h : cs.all plain = true) : percentEncode plain cs = cs := by
  refine (List.flatMap_congr fun c hc => ?_).trans (List.flatMap_singleton' cs)
  rw [if_pos (List.all_eq_true.mp h c hc)]

/-- The escapes of a character are made of percent signs and capital hexadecimal digits. -/
theorem mem_percentChar (h : d ∈ percentChar c) : d = '%' ∨ ∃ n < 16, d = capitalHexDigit n := by
  obtain ⟨b, -, hb⟩ := List.mem_flatMap.mp h
  have hbyte := b.toNat_lt
  simp only [percentByte, List.mem_cons, List.not_mem_nil, or_false] at hb
  rcases hb with rfl | rfl | rfl
  · exact .inl rfl
  · exact .inr ⟨b.toNat / 16, by omega, rfl⟩
  · exact .inr ⟨b.toNat % 16, by omega, rfl⟩

/-- Every character has an escape, which starts with a percent sign. -/
theorem mark_mem_percentChar (c : Char) : '%' ∈ percentChar c := by
  obtain ⟨b, bytes, hbytes⟩ := exists_encodeChar_eq_cons c
  rw [percentChar, hbytes, List.flatMap_cons]
  exact List.mem_append_left _ List.mem_cons_self

/-- A text without a percent sign is the escaped form of no other text. -/
theorem eq_of_percentEncode_eq {w : List Char} (hw : '%' ∉ w) (h : percentEncode plain cs = w) :
    cs = w := by
  have hplain : cs.all plain = true := by
    rw [List.all_eq_true]
    intro c hc
    by_contra hc'
    refine hw (h ▸ List.mem_flatMap.mpr ⟨c, hc, ?_⟩)
    rw [if_neg hc']
    exact mark_mem_percentChar c
  rw [← h, percentEncode_of_plain hplain]

/-- Joined parts are escaped one by one, if the separator stands for itself. -/
theorem percentEncode_joinWith {sep : Char} (hsep : plain sep = true) (parts : List (List Char)) :
    percentEncode plain (joinWith [sep] parts) =
      joinWith [sep] (parts.map (percentEncode plain)) := by
  induction parts with
  | nil => rfl
  | cons part parts ih =>
      by_cases hparts : parts = []
      · rw [hparts]
        rfl
      · have hsingle : percentEncode plain [sep] = [sep] := percentEncode_of_plain (by simp [hsep])
        rw [List.map_cons, joinWith_cons hparts, joinWith_cons (by simpa using hparts),
          percentEncode_append, percentEncode_append, ih, hsingle]

end Text

namespace Url

variable {c : Char} {part : List Char}

/-- An escape stands for itself in a path, and no slash is in it. -/
theorem isPathChar_of_mem_percentChar {d : Char} (h : d ∈ percentChar c) :
    isPathChar d = true ∧ d ≠ '/' := by
  have hhex : ∀ n < 16, isPathChar (capitalHexDigit n) = true ∧ capitalHexDigit n ≠ '/' := by
    decide
  rcases mem_percentChar h with rfl | ⟨n, hn, rfl⟩
  · decide
  · exact hhex n hn

/-- Escaping what may not stand for itself in a path keeps the escapes that are there. -/
theorem percentComplete_isPathChar (cs : List Char) :
    percentComplete isPathChar cs = percentEncode isPathChar cs := by
  refine percentComplete_eq_percentEncode (by decide) (fun c hc => ?_) cs
  exact of_lt_128 (fun c => (hexDigit? c).isSome = true → isPathChar c = true) (by decide)
    (lt_128_of_hexDigit hc) hc

/-- An escaped path is made of characters that stand for themselves in it. -/
theorem all_percentEncode (cs : List Char) :
    (percentEncode isPathChar cs).all isPathChar = true := by
  rw [List.all_eq_true]
  intro d hd
  obtain ⟨c, -, hc⟩ := List.mem_flatMap.mp hd
  split at hc
  · next hplain => rwa [List.mem_singleton.mp hc]
  · exact (isPathChar_of_mem_percentChar hc).1

/-- Escaping a component of a path puts no slash into it. -/
theorem slash_not_mem_percentEncode (h : '/' ∉ part) : '/' ∉ percentEncode isPathChar part := by
  intro hmem
  obtain ⟨c, hc, hslash⟩ := List.mem_flatMap.mp hmem
  split at hslash
  · exact h (List.mem_singleton.mp hslash ▸ hc)
  · exact (isPathChar_of_mem_percentChar hslash).2 rfl

/-- An escaped path starts with a slash only if the path does. -/
theorem head?_of_head?_percentEncode (h : (percentEncode isPathChar part).head? = some '/') :
    part.head? = some '/' := by
  cases part with
  | nil => exact h
  | cons c cs =>
      rw [percentEncode_cons] at h
      split at h
      · exact h
      · rw [List.head?_append_of_ne_nil _ (List.ne_nil_of_mem (mark_mem_percentChar c))] at h
        exact absurd rfl (isPathChar_of_mem_percentChar (List.mem_of_head? h)).2

/-- Escaping a path escapes its components. -/
theorem splitAt_percentEncode (cs : List Char) :
    splitAt '/' (percentEncode isPathChar cs) =
      (splitAt '/' cs).map (percentEncode isPathChar) := by
  have hjoin : percentEncode isPathChar (joinWith ['/'] (splitAt '/' cs)) = _ :=
    percentEncode_joinWith (by decide) (splitAt '/' cs)
  rw [joinWith_splitAt] at hjoin
  rw [hjoin, splitAt_joinWith (by simpa using splitAt_ne_nil '/' cs)]
  intro part hpart
  obtain ⟨raw, hraw, rfl⟩ := List.mem_map.mp hpart
  exact slash_not_mem_percentEncode (sublist_of_mem_splitAt hraw).2

/-! ### Following the dots -/

/-- A component that is followed. -/
def IsDotted (part : List Char) : Prop := part = ['.'] ∨ part = ['.', '.']

instance (part : List Char) : Decidable (IsDotted part) :=
  inferInstanceAs (Decidable (part = ['.'] ∨ part = ['.', '.']))

/-- An escaped component is followed exactly if the component is. -/
theorem percentEncode_eq_dots_iff :
    (percentEncode isPathChar part = ['.'] ↔ part = ['.']) ∧
    (percentEncode isPathChar part = ['.', '.'] ↔ part = ['.', '.']) := by
  have hdot : percentEncode isPathChar ['.'] = ['.'] := by decide
  have hdots : percentEncode isPathChar ['.', '.'] = ['.', '.'] := by decide
  exact ⟨⟨eq_of_percentEncode_eq (by decide), fun h => h ▸ hdot⟩,
    ⟨eq_of_percentEncode_eq (by decide), fun h => h ▸ hdots⟩⟩

/-- One dot stays where it is. -/
theorem followDots_dot (before rest : List (List Char)) :
    followDots before (['.'] :: rest) = followDots before rest := rfl

/-- Two dots lead one directory up, and nowhere from the top. -/
theorem followDots_doubleDot (front rest : List (List Char)) :
    followDots ([] :: front).reverse (['.', '.'] :: rest) =
      followDots ([] :: front.dropLast).reverse rest := by
  rw [followDots]
  congr 1
  rcases List.eq_nil_or_concat front with rfl | ⟨init, last, rfl⟩
  · rfl
  · simp

/-- Every other component leads down. -/
theorem followDots_cons (hpart : ¬ IsDotted part) (before rest : List (List Char)) :
    followDots before (part :: rest) = followDots (part :: before) rest := by
  rw [IsDotted, not_or] at hpart
  exact followDots.eq_4 before part rest hpart.1 hpart.2

/-- Components that are not followed are kept. -/
theorem followDots_append {dir : List (List Char)} (hdir : ∀ part ∈ dir, ¬ IsDotted part)
    (before rest : List (List Char)) :
    followDots before (dir ++ rest) = followDots (dir.reverse ++ before) rest := by
  induction dir generalizing before with
  | nil => rfl
  | cons part dir ih =>
      obtain ⟨hpart, hdir⟩ := List.forall_mem_cons.mp hdir
      rw [List.cons_append, followDots_cons hpart, ih hdir, List.reverse_cons, List.append_assoc,
        List.singleton_append]

/-- A path without dots is in normal form. -/
theorem normalPath_of_undotted {parts : List (List Char)} (hne : parts ≠ [])
    (hslash : ∀ part ∈ parts, '/' ∉ part) (hdots : ∀ part ∈ parts, ¬ IsDotted part) :
    normalPath (joinWith ['/'] parts) = joinWith ['/'] parts := by
  have hfollow : followDots [] (parts ++ []) = parts := by
    rw [followDots_append hdots, List.append_nil, followDots, List.reverse_reverse]
  rw [List.append_nil] at hfollow
  rw [normalPath, splitAt_joinWith hne hslash, hfollow]

/-! ### Trails -/

/-- Where components of a path lead from a directory: so many directories up, and from there down
along further components, of which the last one comes first. -/
structure Trail where
  up : Nat := 0
  down : List (List Char) := []
deriving Repr, DecidableEq

namespace Trail

variable {dir parts rest : List (List Char)} {f : List Char → List Char}

/-- Follows one component more. Two dots take the last component back, or lead up. -/
def step (t : Trail) (part : List Char) : Trail :=
  if part = ['.'] then t
  else if part = ['.', '.'] then
    match t.down with
    | [] => { t with up := t.up + 1 }
    | _ :: down => { t with down }
  else { t with down := part :: t.down }

/-- Where components lead. -/
def ofParts (parts : List (List Char)) : Trail := parts.foldl step {}

/-- The place to which a trail leads from a directory. -/
def place (t : Trail) (dir : List (List Char)) : List (List Char) :=
  dir.take (dir.length - t.up) ++ t.down.reverse

/-- A trail ends below the directory from which it is followed: it leads down along the directories
that it has left, and then on. -/
def EndsBelow (t : Trail) (dir : List (List Char)) : Prop :=
  ∃ rest ≠ [], t.down.reverse = dir.drop (dir.length - t.up) ++ rest

/-- A trail along other components. -/
def map (f : List Char → List Char) (t : Trail) : Trail := { t with down := t.down.map f }

/-- One dot stays at a place. -/
theorem step_dot (t : Trail) : t.step ['.'] = t := rfl

/-- Two dots lead one directory up from a place, and nowhere from the top. -/
theorem place_step_doubleDot (t : Trail) (dir : List (List Char)) :
    (t.step ['.', '.']).place dir = (t.place dir).dropLast := by
  obtain ⟨up, down⟩ := t
  cases down with
  | nil =>
      have hlength : dir.length - (up + 1) = min (dir.length - up - 1) dir.length := by omega
      simpa [step, place, List.dropLast_eq_take, List.take_take] using congrArg dir.take hlength
  | cons last down => simp [step, place, ← List.append_assoc]

/-- A component that is not followed leads down. -/
theorem step_of_undotted {part : List Char} (h : ¬ IsDotted part) (t : Trail) :
    t.step part = { t with down := part :: t.down } := by
  rw [IsDotted, not_or] at h
  rw [step, if_neg h.1, if_neg h.2]

/-- A component that is not followed is below a place. -/
theorem place_step_of_undotted {part : List Char} (h : ¬ IsDotted part) (t : Trail)
    (dir : List (List Char)) : (t.step part).place dir = t.place dir ++ [part] := by
  simp [step_of_undotted h, place]

/-- One component more is one step of the trail, wherever it is followed from. -/
theorem followDots_step (t : Trail) (dir : List (List Char)) (part : List Char)
    (rest : List (List Char)) :
    followDots ([] :: t.place dir).reverse (part :: rest) =
      followDots ([] :: (t.step part).place dir).reverse rest := by
  by_cases hpart : IsDotted part
  · rcases hpart with rfl | rfl
    · rw [followDots_dot, step_dot]
    · rw [followDots_doubleDot, place_step_doubleDot]
  · rw [followDots_cons hpart, place_step_of_undotted hpart]
    simp

/-- What has been followed is a place to which a trail leads, and the rest of a path leads on from
there along the rest of the trail. -/
theorem followDots_place (t : Trail) (dir parts : List (List Char)) :
    followDots ([] :: t.place dir).reverse parts = [] :: (parts.foldl step t).place dir := by
  induction parts generalizing t with
  | nil => rw [followDots, List.reverse_reverse, List.foldl_nil]
  | cons part parts ih => rw [followDots_step, ih, List.foldl_cons]

/-- A trail without a component stays at the directory. -/
theorem place_empty (dir : List (List Char)) : Trail.place {} dir = dir := by simp [place]

/-- Components that are not followed in front of a path lead to a directory further down, from which
the path is followed. -/
theorem place_append (hdots : ∀ part ∈ rest, ¬ IsDotted part) (dir parts : List (List Char)) :
    (ofParts (rest ++ parts)).place dir = (ofParts parts).place (dir ++ rest) := by
  have hfirst := followDots_place {} dir (rest ++ parts)
  have hthen := followDots_place {} (dir ++ rest) parts
  rw [place_empty] at hfirst hthen
  rw [followDots_append hdots, ← List.reverse_append, List.cons_append, hthen] at hfirst
  exact (List.cons.inj hfirst).2.symm

/-- A trail leads down only along components that are not followed. -/
theorem of_mem_down_foldl {part : List Char} (t : Trail)
    (h : part ∈ (parts.foldl step t).down) : part ∈ t.down ∨ part ∈ parts ∧ ¬ IsDotted part := by
  induction parts generalizing t with
  | nil => exact .inl h
  | cons next parts ih =>
      rcases ih (t.step next) h with hstep | ⟨hmem, hpart⟩
      · by_cases hnext : IsDotted next
        · -- dots lead only to components that the trail has already
          refine .inl ?_
          rcases hnext with rfl | rfl
          · exact hstep
          · obtain ⟨up, down⟩ := t
            cases down with
            | nil => exact hstep
            | cons last down => exact List.mem_cons_of_mem last hstep
        · rw [step_of_undotted hnext] at hstep
          rcases List.mem_cons.mp hstep with rfl | hdown
          · exact .inr ⟨List.mem_cons_self, hnext⟩
          · exact .inl hdown
      · exact .inr ⟨List.mem_cons_of_mem next hmem, hpart⟩

/-- The components along which a path leads down are some of its own that are not followed. -/
theorem of_mem_down {part : List Char} (h : part ∈ (ofParts parts).down) :
    part ∈ parts ∧ ¬ IsDotted part :=
  (of_mem_down_foldl {} h).resolve_left List.not_mem_nil

/-- The components of a place are those of the directory and some of the path. -/
theorem of_mem_place {part : List Char} (h : part ∈ (ofParts parts).place dir) :
    part ∈ dir ∨ part ∈ parts ∧ ¬ IsDotted part := by
  rcases List.mem_append.mp h with hdir | hdown
  · exact .inl (List.mem_of_mem_take hdir)
  · exact .inr (of_mem_down (List.mem_reverse.mp hdown))

/-- Changing components without touching the dots changes a trail component by component. -/
theorem ofParts_map (hdot : ∀ part, f part = ['.'] ↔ part = ['.'])
    (hdots : ∀ part, f part = ['.', '.'] ↔ part = ['.', '.']) (parts : List (List Char)) :
    ofParts (parts.map f) = (ofParts parts).map f := by
  have hstep (t : Trail) (part : List Char) : (t.map f).step (f part) = (t.step part).map f := by
    simp only [step, hdot, hdots, map]
    split_ifs
    · rfl
    · cases t.down <;> rfl
    · rfl
  have hfold (t : Trail) : (parts.map f).foldl step (t.map f) = (parts.foldl step t).map f := by
    induction parts generalizing t with
    | nil => rfl
    | cons part parts ih => rw [List.map_cons, List.foldl_cons, hstep, ih, List.foldl_cons]
  exact hfold {}

/-- An escaped path leads along the escaped components of the path. -/
theorem ofParts_percentEncode (parts : List (List Char)) :
    ofParts (parts.map (percentEncode isPathChar)) =
      (ofParts parts).map (percentEncode isPathChar) :=
  ofParts_map (fun _ => percentEncode_eq_dots_iff.1) (fun _ => percentEncode_eq_dots_iff.2) parts

/-- A trail ends at what is below the directory from which it is followed exactly if it leads down
there. -/
theorem place_eq_append_iff {t : Trail} :
    t.place dir = dir ++ rest ↔ t.down.reverse = dir.drop (dir.length - t.up) ++ rest := by
  have hdir : dir ++ rest =
      dir.take (dir.length - t.up) ++ (dir.drop (dir.length - t.up) ++ rest) := by
    rw [← List.append_assoc, List.take_append_drop]
  rw [place, hdir, List.append_cancel_left_eq]

/-- A trail that does not lead up ends below its directory exactly if it leads down. -/
theorem endsBelow_iff_of_up_eq_zero {t : Trail} (h : t.up = 0) : t.EndsBelow dir ↔ t.down ≠ [] := by
  rw [EndsBelow, h, Nat.sub_zero, List.drop_length]
  constructor
  · rintro ⟨rest, hrest, hdown⟩ hnil
    rw [hnil] at hdown
    exact hrest hdown.symm
  · exact fun hdown => ⟨t.down.reverse, by simpa using hdown, rfl⟩

/-- Without a double dot a path leads only down, along all components that are not followed. -/
theorem ofParts_of_no_doubleDot (h : ['.', '.'] ∉ parts) :
    ofParts parts = { up := 0, down := (parts.filter fun part => part ≠ ['.']).reverse } := by
  have hfold (t : Trail) : parts.foldl step t =
      { t with down := (parts.filter fun part => part ≠ ['.']).reverse ++ t.down } := by
    induction parts generalizing t with
    | nil => rfl
    | cons part parts ih =>
        rw [List.mem_cons, not_or] at h
        rw [List.foldl_cons, ih h.2]
        by_cases hdot : part = ['.']
        · simp [hdot, step_dot]
        · rw [step_of_undotted fun hpart => hpart.elim hdot (Ne.symm h.1)]
          simp [hdot]
  rw [ofParts, hfold, List.append_nil]

end Trail

/-! ### Below a directory -/

/-- A directory as it is written, with a slash in front of each of its components and one behind
them. -/
def directoryText (dir : List (List Char)) : List Char := '/' :: dir.flatMap (· ++ ['/'])

variable {dir parts : List (List Char)}

/-- A directory that is reached from another one is written behind it. -/
theorem directoryText_append (dir parts : List (List Char)) :
    directoryText (dir ++ parts) = directoryText dir ++ parts.flatMap (· ++ ['/']) := by
  rw [directoryText, directoryText, List.flatMap_append, List.cons_append]

/-- A slash behind a path from the top makes it a directory. -/
theorem directoryText_eq_concat (dir : List (List Char)) :
    directoryText dir = joinWith ['/'] ([] :: dir) ++ ['/'] := by
  have hdir (first : List Char) :
      first ++ directoryText dir = joinWith ['/'] (first :: dir) ++ ['/'] := by
    induction dir generalizing first with
    | nil => rfl
    | cons part dir ih =>
        rw [joinWith_cons (List.cons_ne_nil _ _), List.append_assoc, ← ih part]
        simp [directoryText]
  exact hdir []

/-- Components below a directory are written behind it. -/
theorem joinWith_directory (hparts : parts ≠ []) (dir : List (List Char)) :
    joinWith ['/'] ([] :: (dir ++ parts)) = directoryText dir ++ joinWith ['/'] parts := by
  have hdir : joinWith ['/'] (dir ++ parts) = dir.flatMap (· ++ ['/']) ++ joinWith ['/'] parts := by
    induction dir with
    | nil => rfl
    | cons part dir ih =>
        rw [List.cons_append, joinWith_cons (by simp [hparts]), ih, List.flatMap_cons,
          List.append_assoc (part ++ ['/'])]
  rw [joinWith_cons (by simp [hparts]), hdir]
  rfl

/-- The components of a path that is written behind a directory. -/
theorem splitAt_directory (hdir : ∀ part ∈ dir, '/' ∉ part) (cs : List Char) :
    splitAt '/' (directoryText dir ++ cs) = [] :: (dir ++ splitAt '/' cs) := by
  have hne := splitAt_ne_nil '/' cs
  have hjoin := joinWith_directory hne dir
  rw [joinWith_splitAt] at hjoin
  rw [← hjoin, splitAt_joinWith (List.cons_ne_nil _ _)]
  intro part hpart
  rcases List.mem_cons.mp hpart with rfl | hpart
  · exact List.not_mem_nil
  · rcases List.mem_append.mp hpart with hpart | hpart
    · exact hdir part hpart
    · exact (sublist_of_mem_splitAt hpart).2

/-- **Where a path leads from a directory.** -/
theorem normalPath_directory (hslash : ∀ part ∈ dir, '/' ∉ part)
    (hdots : ∀ part ∈ dir, ¬ IsDotted part) (cs : List Char) :
    normalPath (directoryText dir ++ cs) =
      joinWith ['/'] ([] :: (Trail.ofParts (splitAt '/' cs)).place dir) := by
  have htop : ¬ IsDotted [] := by decide
  have hplace := Trail.followDots_place {} dir (splitAt '/' cs)
  rw [Trail.place_empty] at hplace
  rw [normalPath, splitAt_directory hslash, followDots_cons htop, followDots_append hdots,
    ← List.reverse_cons, hplace, Trail.ofParts]

/-- Where a path leads from the top. -/
theorem normalPath_top (cs : List Char) :
    normalPath (directoryText [] ++ cs) =
      joinWith ['/'] ([] :: (Trail.ofParts (splitAt '/' cs)).place []) :=
  normalPath_directory (by simp) (by simp) cs

/-- What is below a directory: its components, and then further ones. -/
theorem directoryText_prefix_iff (hdir : ∀ part ∈ dir, '/' ∉ part)
    (hparts : ∀ part ∈ parts, '/' ∉ part) :
    directoryText dir <+: joinWith ['/'] ([] :: parts) ↔ ∃ rest ≠ [], parts = dir ++ rest := by
  constructor
  · rintro ⟨cs, hcs⟩
    have hsplit := congrArg (splitAt '/') hcs
    rw [splitAt_directory hdir, splitAt_joinWith (List.cons_ne_nil _ _)
      (List.forall_mem_cons.mpr ⟨List.not_mem_nil, hparts⟩)] at hsplit
    exact ⟨splitAt '/' cs, splitAt_ne_nil '/' cs, (List.cons.inj hsplit).2.symm⟩
  · rintro ⟨rest, hrest, rfl⟩
    rw [joinWith_directory hrest]
    exact List.prefix_append _ _

end Url

end MergeGate
