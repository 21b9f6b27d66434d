import Mathlib.Data.List.Infix
import Marginalia.Proofs.Files.Growth
import Marginalia.Proofs.Text.RawLines

/-!
# Making the directories above a file

Before a text is added to a file, every directory above the file is made where it is missing. The
directories are made along the normal form of the path, but the file is opened along the path as it
is spelled. A spelling that goes into a directory and out of it again by two dots needs that
directory, too, and nobody makes it; every other spelling reaches its file.

## Main definitions

* `FileTree.IsClosed`, `FileTree.IsRegular`: trees that a file system holds
* `FileTree.Prepares`: a tree with a directory and every directory above it
* `FileTree.Creates`: a tree with bytes added to a file below new directories
* `FileTree.Fits`: paths that no limit of length stands against
* `FileTree.Passes`: paths whose spelling needs no directory that nobody makes

## Main results

* `FileTree.walk_eq_ok_iff`: parts lead somewhere if they pass through directories
* `FileTree.ensureUp_eq_ok`: every missing directory above a file is made
* `FileTree.passes_of_notMem_dots`: without two dots no other directory is needed
* `FileTree.deliver_creates`: which texts reach their file, and what changes
-/

namespace Marginalia

/-! ## Lengths of paths -/

theorem Text.joined_prefix (mid : Text) {parts parts' : List Text} (h : parts <+: parts') :
    joined mid parts <+: joined mid parts' := by
  induction parts generalizing parts' with
  | nil => exact List.nil_prefix
  | cons part rest ih =>
    obtain ⟨rest', rfl, hrest⟩ : ∃ rest', parts' = part :: rest' ∧ rest <+: rest' := by
      obtain ⟨more, rfl⟩ := h
      exact ⟨rest ++ more, rfl, List.prefix_append rest more⟩
    cases rest with
    | nil =>
      cases rest' with
      | nil => exact List.prefix_refl _
      | cons next rest' =>
        rw [joined_singleton, joined_cons_cons, List.append_assoc]
        exact List.prefix_append _ _
    | cons next rest =>
      obtain ⟨more, rfl⟩ := hrest
      rw [List.cons_append, joined_cons_cons, joined_cons_cons, List.prefix_append_right_inj]
      exact ih (List.prefix_append (next :: rest) more)

/-- A path above one that is not too long is not too long. -/
theorem AbsolutePath.longPath_text {doubled : Bool} {l l' : Location} (h : l <+: l')
    (hl : FileTree.longPath (AbsolutePath.text ⟨doubled, l'⟩) = false) :
    FileTree.longPath (AbsolutePath.text ⟨doubled, l⟩) = false := by
  have htext : AbsolutePath.text ⟨doubled, l⟩ <+: AbsolutePath.text ⟨doubled, l'⟩ :=
    (List.prefix_append_right_inj _).mpr (Text.joined_prefix ['/'] h)
  obtain ⟨more, hmore⟩ := htext
  unfold FileTree.longPath at hl ⊢
  rw [← hmore, Utf8.encode_append, List.length_append] at hl
  simp only [decide_eq_false_iff_not] at hl ⊢
  omega

namespace Path

theorem mem_clean {here : Location} {parts : List Name} {name : Name}
    (h : name ∈ clean here parts) : name ∈ here ++ parts := by
  induction parts generalizing here with
  | nil => rwa [List.append_nil]
  | cons part rest ih =>
    have hstep : ∀ n ∈ stepTo here part, n ∈ here ++ [part] := by
      intro n hn
      unfold stepTo at hn
      split at hn
      · exact List.mem_append_left _ hn
      split at hn
      · exact List.mem_append_left _ (List.dropLast_subset here hn)
      · exact hn
    rw [List.append_cons, List.mem_append]
    exact (List.mem_append.mp (ih h)).imp_left (hstep name)

/-- Without two dots normalising never leads back. -/
theorem clean_prefix {here : Location} {parts parts' : List Name} (h : parts <+: parts')
    (hdots : dots ∉ parts') : clean here parts <+: clean here parts' := by
  obtain ⟨more, rfl⟩ := h
  rw [clean_append]
  generalize clean here parts = there
  replace hdots := fun hm => hdots (List.mem_append_right parts hm)
  induction more generalizing there with
  | nil => exact List.prefix_refl there
  | cons part more ih =>
    obtain ⟨hpart, hmore⟩ := not_or.mp fun hm => hdots (List.mem_cons.mpr hm)
    have hstep : there <+: stepTo there part := by
      unfold stepTo
      split
      · exact List.prefix_refl there
      · rw [if_neg (Ne.symm hpart)]
        exact List.prefix_append there [part]
    exact hstep.trans (ih _ hmore)

end Path

namespace FileTree

variable {tree tree' : FileTree} {here location : Location} {path : Text}

/-! ## Trees of a file system -/

/-- Whatever stands somewhere stands in a directory. -/
def IsClosed (tree : FileTree) : Prop :=
  ∀ l, tree.find? l ≠ none → tree.find? l.dropLast = some .directory

/-- A tree as a file system holds it: it is closed, and relative paths start from a directory whose
names can be written in a path. -/
structure IsRegular (tree : FileTree) : Prop where
  closed : tree.IsClosed
  home : tree.find? tree.home = some .directory
  proper : tree.home.IsProper
  plain : tree.home.IsPlain

theorem find?_nil (tree : FileTree) : tree.find? [] = some .directory := rfl

/-- It is enough to look at what is listed. -/
theorem isClosed_of_forall_mem
    (h : ∀ e ∈ tree.entries, tree.find? e.1.dropLast = some .directory) : tree.IsClosed := by
  intro l hl
  by_cases hnil : l = []
  · rw [hnil]
    exact tree.find?_nil
  have hmem : ∀ entries : List (Location × Entry), lookup entries l ≠ none →
      ∃ e ∈ entries, e.1 = l := by
    intro entries hlookup
    induction entries with
    | nil => exact absurd rfl hlookup
    | cons x rest ih =>
      obtain ⟨l', d⟩ := x
      rw [lookup] at hlookup
      split at hlookup
      · next heq => exact ⟨_, List.mem_cons_self, heq⟩
      · obtain ⟨e, he, heq⟩ := ih hlookup
        exact ⟨e, List.mem_cons_of_mem _ he, heq⟩
  obtain ⟨e, he, rfl⟩ := hmem tree.entries (by simpa [find?, hnil] using hl)
  exact h e he

/-- **What stands above something is a directory.** -/
theorem IsClosed.above (hc : tree.IsClosed) {l p : Location} (hl : tree.find? l ≠ none)
    (hp : p <+: l) (hne : p ≠ l) : tree.find? p = some .directory := by
  induction l using List.reverseRecOn with
  | nil => exact absurd (List.prefix_nil.mp hp) hne
  | append_singleton l name ih =>
    have hdir := hc _ hl
    rw [List.dropLast_concat] at hdir
    have hpl : p <+: l := (List.prefix_concat_iff.mp hp).resolve_left hne
    by_cases heq : p = l
    · rwa [heq]
    · exact ih (by simp [hdir]) hpl heq

/-- Above a directory stand directories only. -/
theorem IsClosed.above_directory (hc : tree.IsClosed) {l p : Location}
    (hl : tree.find? l = some .directory) (hp : p <+: l) : tree.find? p = some .directory := by
  by_cases heq : p = l
  · rwa [heq]
  · exact hc.above (by simp [hl]) hp heq

/-! ## Walking -/

/-- **One part leads on** if a directory stands where it leads. -/
theorem enter_eq_ok_iff (hc : tree.IsClosed) (hd : tree.find? here = some .directory) {part : Name}
    (hshort : longName part = false) : tree.enter here part = .ok (Path.stepTo here part) ↔
      tree.find? (Path.stepTo here part) = some .directory := by
  unfold enter
  by_cases hpart : part.isEmpty ∨ part = Path.dot ∨ part = Path.dots
  · -- a part that stays or leads back leads to a directory in any case
    rw [if_pos hpart]
    refine iff_of_true rfl ?_
    unfold Path.stepTo
    split
    · exact hd
    · next hstay =>
      have hdots : part = Path.dots := by tauto
      rw [if_pos hdots]
      exact hc here (by simp [hd])
  · have hproper : part ≠ [] ∧ part ≠ Path.dot ∧ part ≠ Path.dots := by
      simpa [not_or] using hpart
    rw [if_neg hpart, Path.stepTo_of_proper hproper, child?, hshort]
    cases hfind : tree.find? (here ++ [part]) with
    | none => simp
    | some e => cases e <;> simp

/-- **Parts lead somewhere if they pass through directories**, and then to where normalising
leads. -/
theorem walk_eq_ok_iff (hc : tree.IsClosed) (hd : tree.find? here = some .directory)
    {parts : List Name} (hshort : ∀ part ∈ parts, longName part = false) :
    tree.walk here parts = .ok (Path.clean here parts) ↔
      ∀ q, q <+: parts → tree.find? (Path.clean here q) = some .directory := by
  induction parts generalizing here with
  | nil => simp [walk, List.prefix_nil, hd]
  | cons part rest ih =>
    obtain ⟨hpart, hrest⟩ := List.forall_mem_cons.mp hshort
    have henter := enter_eq_ok_iff hc hd hpart
    -- the parts that have been gone through are none, or the first one and some of the rest
    have hfirst : (∀ q, q <+: part :: rest → tree.find? (Path.clean here q) = some .directory) ↔
        ∀ q, q <+: rest → tree.find? (Path.clean (Path.stepTo here part) q) = some .directory := by
      constructor
      · intro h q hq
        exact h (part :: q) (List.cons_prefix_cons.mpr ⟨rfl, hq⟩)
      · intro h q hq
        rcases List.prefix_cons_iff.mp hq with rfl | ⟨q', rfl, hq'⟩
        · exact hd
        · exact h q' hq'
    rw [hfirst, walk]
    by_cases hnext : tree.find? (Path.stepTo here part) = some .directory
    · rw [henter.mpr hnext]
      exact ih hnext hrest
    · refine iff_of_false ?_ fun h => hnext (h [] List.nil_prefix)
      cases he : tree.enter here part with
      | error cause => simp
      | ok there => exact absurd (henter.mp (enter_eq_ok he ▸ he)) hnext

/-! ## Making directories -/

/-- A tree with a directory at a location and at every location above it. -/
structure Prepares (tree : FileTree) (location : Location) (tree' : FileTree) : Prop where
  home : tree'.home = tree.home
  above : ∀ l, l <+: location → tree'.find? l = some .directory
  other : ∀ l, ¬ l <+: location → tree'.find? l = tree.find? l

/-- Nothing has to be made above a directory. -/
theorem IsClosed.prepares (hc : tree.IsClosed) (hd : tree.find? location = some .directory) :
    tree.Prepares location tree := ⟨rfl, fun _ => hc.above_directory hd, fun _ _ => rfl⟩

namespace Prepares

variable {name : Name}

theorem closed (h : tree.Prepares location tree') (hc : tree.IsClosed) : tree'.IsClosed := by
  intro l hl
  by_cases habove : l.dropLast <+: location
  · exact h.above _ habove
  · -- below the new directories everything is as it was
    have hlow : ¬ l <+: location := fun hp => habove ((List.dropLast_prefix l).trans hp)
    rw [h.other l hlow] at hl
    rw [h.other _ habove]
    exact hc l hl

theorem not_concat_prefix_self (location : Location) (name : Name) :
    ¬ location ++ [name] <+: location := by
  intro h
  have hle := h.length_le
  rw [List.length_append, List.length_singleton] at hle
  omega

theorem find?_eq_directory_iff (h : tree.Prepares location tree') {l : Location} :
    tree'.find? l = some .directory ↔ tree.find? l = some .directory ∨ l <+: location := by
  by_cases hl : l <+: location
  · exact iff_of_true (h.above l hl) (Or.inr hl)
  · rw [h.other l hl, or_iff_left hl]

/-- The directories lead to the last of them. -/
theorem walk_eq (h : tree.Prepares location tree') (hc : tree.IsClosed) (hl : location.IsProper)
    (hshort : ∀ name ∈ location, longName name = false) :
    tree'.walk [] location = .ok location := by
  have hclean : ∀ q, q <+: location → Path.clean [] q = q := fun q hq =>
    Path.clean_of_proper (fun part hp => hl part (hq.subset hp)) []
  have hwalk := (walk_eq_ok_iff (h.closed hc) tree'.find?_nil hshort).mpr fun q hq => by
    rw [hclean q hq]
    exact h.above q hq
  rwa [hclean _ (List.prefix_refl _)] at hwalk

/-- A directory that stands below the directories is one of them. -/
theorem concat (h : tree.Prepares location tree')
    (hd : tree'.find? (location ++ [name]) = some .directory) :
    tree.Prepares (location ++ [name]) tree' where
  home := h.home
  above l hl := by
    rcases List.prefix_concat_iff.mp hl with rfl | hl
    · exact hd
    · exact h.above l hl
  other l hl := h.other l fun hp => hl (hp.trans (List.prefix_append _ _))

/-- A directory may be put below the directories. -/
theorem insert (h : tree.Prepares location tree') (name : Name) :
    tree.Prepares (location ++ [name]) (tree'.insert (location ++ [name]) .directory) where
  home := h.home
  above l hl := by
    rcases List.prefix_concat_iff.mp hl with rfl | hl
    · exact find?_insert_self tree' _ (by simp)
    · have hne : l ≠ location ++ [name] := by
        rintro rfl
        exact not_concat_prefix_self location name hl
      rw [find?_insert_of_ne tree' _ hne]
      exact h.above l hl
  other l hl := by
    have hne : l ≠ location ++ [name] := by
      rintro rfl
      exact hl (List.prefix_refl _)
    rw [find?_insert_of_ne tree' _ hne]
    exact h.other l fun hp => hl (hp.trans (List.prefix_append _ _))

end Prepares

theorem makeDirectory_eq {parent : Location} {name : Name} {shown : Text}
    (hnull : hasNull shown = false) (hlong : longPath shown = false)
    (hwalk : tree.walk [] parent = .ok parent) (hshort : longName name = false) :
    tree.makeDirectory (parent ++ [name]) shown =
      match tree.find? (parent ++ [name]) with
      | none => (tree.insert (parent ++ [name]) .directory, .ok ())
      | some _ => (tree, .error (.refused .exists shown)) := by
  have hsplit : parentAndName? (parent ++ [name]) = some (parent, name) := by
    simp [parentAndName?]
  unfold makeDirectory
  rw [hnull, hlong, hsplit, if_neg Bool.false_ne_true, if_neg Bool.false_ne_true]
  dsimp only
  rw [hwalk]
  dsimp only
  rw [child?, hshort, if_neg Bool.false_ne_true]
  cases tree.find? (parent ++ [name]) <;> rfl

/-- **Every missing directory above a file is made**, and nothing else changes. -/
theorem ensureUp_eq_ok (hc : tree.IsClosed) (doubled : Bool) (names : List Name)
    (hproper : Location.IsProper names) (hplain : Location.IsPlain names)
    (hshort : ∀ name ∈ names, longName name = false)
    (hlong : longPath (AbsolutePath.text ⟨doubled, names.reverse⟩) = false)
    (hfree : ∀ l, l <+: names.reverse → tree.find? l = none ∨ tree.find? l = some .directory) :
    ∃ tree', tree.ensureUp doubled names = (tree', .ok ()) ∧
      tree.Prepares names.reverse tree' := by
  induction names with
  | nil => exact ⟨tree, rfl, hc.prepares tree.find?_nil⟩
  | cons name above ih =>
    obtain ⟨hname, habove⟩ := List.forall_mem_cons.mp hproper
    obtain ⟨hnull, hnulls⟩ := List.forall_mem_cons.mp hplain
    obtain ⟨hlength, hlengths⟩ := List.forall_mem_cons.mp hshort
    rw [List.reverse_cons] at hlong hfree ⊢
    have hparent : above.reverse <+: above.reverse ++ [name] := List.prefix_append _ _
    -- first the directory above is made, unless it is there
    obtain ⟨t, hup, hprepares⟩ : ∃ t, (if tree.occupied above.reverse then (tree, .ok ())
        else tree.ensureUp doubled above : Effect Unit) = (t, .ok ()) ∧
        tree.Prepares above.reverse t := by
      by_cases hocc : tree.occupied above.reverse
      · have hd : tree.find? above.reverse = some .directory := by
          refine (hfree _ hparent).resolve_left fun hnone => ?_
          simp [occupied, hnone] at hocc
        exact ⟨tree, if_pos hocc, hc.prepares hd⟩
      · rw [if_neg hocc]
        exact ih habove hnulls hlengths (AbsolutePath.longPath_text hparent hlong)
          fun l hl => hfree l (hl.trans hparent)
    have hwalk := hprepares.walk_eq hc (fun part hp => habove part (List.mem_reverse.mp hp))
      fun part hp => hlengths part (List.mem_reverse.mp hp)
    have hshown : hasNull (AbsolutePath.text ⟨doubled, above.reverse ++ [name]⟩) = false := by
      refine AbsolutePath.hasNull_text fun part hp => ?_
      rcases List.mem_append.mp hp with hp | hp
      · exact hnulls part (List.mem_reverse.mp hp)
      · rwa [List.mem_singleton.mp hp]
    have hmake := makeDirectory_eq hshown hlong hwalk hlength
    have hsame := hprepares.other _ (Prepares.not_concat_prefix_self above.reverse name)
    rw [ensureUp]
    dsimp only
    rw [hup]
    dsimp only
    rw [hmake, hsame]
    rcases hfree _ (List.prefix_refl _) with hnone | hdir
    · rw [hnone]
      exact ⟨_, rfl, hprepares.insert name⟩
    · -- the directory is there already, which is no fault
      rw [hdir]
      dsimp only
      rw [hsame, hdir, if_pos rfl]
      exact ⟨t, rfl, hprepares.concat (hsame.trans hdir)⟩

/-! ## Opening the file -/

theorem openParts_concat {front : List Name} {last : Name}
    (hlast : last ≠ [] ∧ last ≠ Path.dot ∧ last ≠ Path.dots) (hshort : longName last = false) :
    tree.openParts here (front ++ [last]) =
      match tree.walk here front with
      | .error cause => .error cause
      | .ok there =>
        if tree.find? (there ++ [last]) = some .directory then .error .isDirectory
        else .ok (there ++ [last]) := by
  obtain ⟨hne, hdot, hdots⟩ := hlast
  -- the last part names something, so that no part is dropped
  have hempty : last.isEmpty = false := by simpa using hne
  have hnamed : ((front ++ [last]).reverse.dropWhile List.isEmpty).reverse = front ++ [last] := by
    rw [List.reverse_append, List.reverse_singleton, List.singleton_append,
      List.dropWhile_cons_of_neg (by simp [hempty])]
    simp
  unfold openParts
  rw [hnamed]
  dsimp only
  rw [List.getLast?_concat, Option.getD_some, hempty, if_neg Bool.false_ne_true,
    List.dropLast_concat]
  cases tree.walk here front with
  | error cause => rfl
  | ok there =>
    dsimp only
    rw [if_neg (by simp [hdot, hdots]), if_neg (Nat.lt_irrefl _), child?, hshort,
      if_neg Bool.false_ne_true]
    rcases tree.find? (there ++ [last]) with _ | _ | _ <;> rfl

theorem openLocation_eq (hnull : hasNull path = false) (hne : path ≠ [])
    (hlong : longPath path = false) : tree.openLocation path =
      match tree.openParts (tree.start path) (Path.parts path) with
      | .error cause => .error (.refused cause path)
      | .ok location => .ok location := by
  have hempty : path.isEmpty = false := by simpa using hne
  cases h : tree.openParts (tree.start path) (Path.parts path) <;>
    simp [openLocation, hnull, hempty, hlong, h]

theorem append_of_openLocation_ok (h : tree.openLocation path = .ok location) (s : Text) :
    tree.append path (.utf8 false) s =
      (tree.insert location (.file (tree.contentAt location ++ Utf8.encode s)), .ok ()) := by
  rw [append, if_neg (by simp [Encoding.opens]), h]
  dsimp only
  rw [Encoding.encode_utf8]

theorem append_of_openLocation_error {e : FileFault} (h : tree.openLocation path = .error e)
    (s : Text) : tree.append path (.utf8 false) s = (tree, .error e) := by
  rw [append, if_neg (by simp [Encoding.opens]), h]

/-! ## Deliveries -/

/-- A tree with bytes added at the end of the file at a location, and with every directory above
it. -/
structure Creates (tree : FileTree) (location : Location) (added : Bytes) (tree' : FileTree) :
    Prop where
  home : tree'.home = tree.home
  /-- The file is what it was, or new, with the bytes behind it. -/
  file : tree'.find? location = some (.file (tree.contentAt location ++ added))
  /-- Every directory above the file is there. -/
  above : ∀ l, l <+: location.dropLast → tree'.find? l = some .directory
  /-- Nothing else is touched. -/
  other : ∀ l, l ≠ location → ¬ l <+: location.dropLast → tree'.find? l = tree.find? l

/-- The last part of the path names a file. -/
def NamesFile (path : Text) : Prop :=
  ∀ last ∈ (Path.parts path).getLast?, last ≠ [] ∧ last ≠ Path.dot ∧ last ≠ Path.dots

/-- No limit of length stands against the path. -/
structure Fits (tree : FileTree) (path : Text) : Prop where
  spelled : longPath path = false
  normal : longPath (Path.normal tree.home path).text = false
  names : ∀ name ∈ tree.home ++ Path.parts path, longName name = false

/-- The spelling of the path passes only through directories that are there or stand above the
file. -/
def Passes (tree : FileTree) (path : Text) : Prop :=
  ∀ q ∈ (Path.parts path).dropLast.inits,
    tree.find? (Path.clean (tree.start path) q) = some .directory ∨
      Path.clean (tree.start path) q <+: (Path.normal tree.home path).parent.location

instance (path : Text) : Decidable (NamesFile path) :=
  inferInstanceAs (Decidable (∀ last ∈ (Path.parts path).getLast?, _))

instance (tree : FileTree) (path : Text) : Decidable (tree.Passes path) :=
  inferInstanceAs (Decidable (∀ q ∈ (Path.parts path).dropLast.inits, _))

variable {front : List Name} {last : Name}

theorem location_normal (hparts : Path.parts path = front ++ [last])
    (hlast : last ≠ [] ∧ last ≠ Path.dot ∧ last ≠ Path.dots) (tree : FileTree) :
    (Path.normal tree.home path).location = Path.clean (tree.start path) front ++ [last] := by
  have hnormal : (Path.normal tree.home path).location =
      Path.clean (tree.start path) (Path.parts path) := rfl
  rw [hnormal, hparts, Path.clean_append]
  exact Path.stepTo_of_proper hlast _

theorem passes_iff (hparts : Path.parts path = front ++ [last])
    (hlast : last ≠ [] ∧ last ≠ Path.dot ∧ last ≠ Path.dots) : tree.Passes path ↔
      ∀ q, q <+: front → tree.find? (Path.clean (tree.start path) q) = some .directory ∨
        Path.clean (tree.start path) q <+: Path.clean (tree.start path) front := by
  unfold Passes AbsolutePath.parent
  rw [location_normal hparts hlast, hparts, List.dropLast_concat, List.dropLast_concat]
  simp only [List.mem_inits]

/-- **Without two dots no other directory is needed** than those above the file. -/
theorem passes_of_notMem_dots (hname : NamesFile path) (hdots : Path.dots ∉ Path.parts path) :
    tree.Passes path := by
  obtain ⟨front, last, hparts⟩ := List.eq_nil_or_concat' (Path.parts path) |>.resolve_left
    (Text.splitAt_ne_nil '/' path)
  have hlast := hname last (by simp [hparts])
  rw [passes_iff hparts hlast]
  intro q hq
  refine Or.inr (Path.clean_prefix hq fun hmem => hdots ?_)
  rw [hparts]
  exact List.mem_append_left _ hmem

/-- The directories above a file are made. -/
theorem ensure_parent_eq_ok (hr : tree.IsRegular) (hnull : hasNull path = false)
    (hfits : tree.Fits path)
    (habove : ∀ l, l <+: (Path.normal tree.home path).parent.location →
      tree.find? l = none ∨ tree.find? l = some .directory) :
    ∃ t, tree.ensure (Path.normal tree.home path).parent = (t, .ok ()) ∧
      tree.Prepares (Path.normal tree.home path).parent.location t := by
  have hmem : ∀ name ∈ (Path.normal tree.home path).parent.location.reverse,
      name ∈ (Path.normal tree.home path).location := fun name hn =>
    List.dropLast_subset _ (List.mem_reverse.mp hn)
  have hshort : ∀ name ∈ (Path.normal tree.home path).location, longName name = false := by
    intro name hn
    refine hfits.names name ?_
    rcases List.mem_append.mp (Path.mem_clean hn) with hstart | hpart
    · split at hstart
      · cases hstart
      · exact List.mem_append_left _ hstart
    · exact List.mem_append_right _ hpart
  -- what fits the whole path fits the path of its directory
  have hlong := AbsolutePath.longPath_text (List.dropLast_prefix _) hfits.normal
  have h := ensureUp_eq_ok hr.closed (Path.normal tree.home path).parent.doubled
    (Path.normal tree.home path).parent.location.reverse
    (fun name hn => Path.isProper_normal hr.proper path name (hmem name hn))
    (fun name hn => Path.isPlain_normal hr.plain hnull name (hmem name hn))
    (fun name hn => hshort name (hmem name hn))
  rw [List.reverse_reverse] at h
  exact h hlong habove

/-- Where the path opens a file once the directories above it are there. -/
theorem Prepares.openLocation_eq {t : FileTree} (hr : tree.IsRegular)
    (hnull : hasNull path = false) (hname : NamesFile path) (hfits : tree.Fits path)
    (hfree : tree.find? (Path.normal tree.home path).location ≠ some .directory)
    (h : tree.Prepares (Path.normal tree.home path).parent.location t) :
    (tree.Passes path → t.openLocation path = .ok (Path.normal tree.home path).location) ∧
      (¬ tree.Passes path → ∃ cause, t.openLocation path = .error (.refused cause path)) := by
  obtain ⟨front, last, hparts⟩ := List.eq_nil_or_concat' (Path.parts path) |>.resolve_left
    (Text.splitAt_ne_nil '/' path)
  have hlast := hname last (by simp [hparts])
  have hlocation := location_normal hparts hlast tree
  have hne : path ≠ [] := by
    rintro rfl
    exact (hname [] rfl).1 rfl
  have hshort : ∀ part ∈ front ++ [last], longName part = false := fun part hp =>
    hfits.names part (List.mem_append_right _ (hparts ▸ hp))
  obtain ⟨hfront, hlength⟩ := List.forall_mem_append.mp hshort
  rw [AbsolutePath.parent, hlocation, List.dropLast_concat] at h
  have hstart : t.start path = tree.start path := by rw [start, start, h.home]
  have hdir : t.find? (tree.start path) = some .directory := by
    rw [h.find?_eq_directory_iff]
    refine Or.inl ?_
    unfold start
    split
    · rfl
    · exact hr.home
  -- the walk passes through what was there and what has been made
  have hwalk : t.walk (tree.start path) front = .ok (Path.clean (tree.start path) front) ↔
      tree.Passes path := by
    rw [walk_eq_ok_iff (h.closed hr.closed) hdir hfront, passes_iff hparts hlast]
    simp only [h.find?_eq_directory_iff]
  have hlow := h.other _ (not_concat_prefix_self (Path.clean (tree.start path) front) last)
  rw [FileTree.openLocation_eq hnull hne hfits.spelled, hparts, hstart,
    openParts_concat hlast (hlength last List.mem_cons_self)]
  constructor
  · intro hpasses
    rw [hwalk.mpr hpasses, hlocation]
    dsimp only
    rw [hlow, if_neg (hlocation ▸ hfree)]
  · intro hpasses
    cases hw : t.walk (tree.start path) front with
    | error cause => exact ⟨cause, rfl⟩
    | ok there => exact absurd (hwalk.mp (walk_eq_ok hw ▸ hw)) hpasses

/-- **Which texts reach their file.** Let every directory above a file be there or be missing. If
the spelling of the path passes only through these and through directories that are there, the
missing directories are made, the text is added to the file, which is made if it is missing, and
nothing else changes. Any other spelling is refused after the directories have been made; it leads
through two dots out of a directory that is not there. -/
theorem deliver_creates (hr : tree.IsRegular) (hnull : hasNull path = false)
    (hname : NamesFile path) (hfits : tree.Fits path)
    (habove : ∀ l, l <+: (Path.normal tree.home path).parent.location →
      tree.find? l = none ∨ tree.find? l = some .directory)
    (hfree : tree.find? (Path.normal tree.home path).location ≠ some .directory) (s : Text) :
    (tree.Passes path → ∃ tree', tree.deliver path (.utf8 false) s = (tree', .ok ()) ∧
      tree.Creates (Path.normal tree.home path).location (Utf8.encode (terminated s)) tree') ∧
    (¬ tree.Passes path → ∃ cause tree',
      tree.deliver path (.utf8 false) s = (tree', .error (.refused cause path)) ∧
        tree.Prepares (Path.normal tree.home path).parent.location tree') ∧
    (Path.dots ∉ Path.parts path → tree.Passes path) := by
  obtain ⟨t, hensure, hprepares⟩ := ensure_parent_eq_ok hr hnull hfits habove
  obtain ⟨hopen, hrefused⟩ := hprepares.openLocation_eq hr hnull hname hfits hfree
  have hne : path.isEmpty = false := by
    cases path with
    | nil => exact absurd rfl (hname [] rfl).1
    | cons c r => rfl
  have hdeliver : tree.deliver path (.utf8 false) s =
      t.append path (.utf8 false) (terminated s) := by
    rw [deliver, hne, if_neg Bool.false_ne_true, hensure]
  rw [hdeliver]
  refine ⟨fun hpasses => ?_, fun hpasses => ?_, passes_of_notMem_dots hname⟩
  · have hlocation : (Path.normal tree.home path).location ≠ [] := by
      intro hnil
      exact hfree (hnil ▸ tree.find?_nil)
    -- the file is not one of the directories above it
    have hbelow : ¬ (Path.normal tree.home path).location <+:
        (Path.normal tree.home path).location.dropLast := by
      intro h
      have hle := h.length_le
      have hpos := List.length_pos_iff.mpr hlocation
      rw [List.length_dropLast] at hle
      omega
    refine ⟨_, append_of_openLocation_ok (hopen hpasses) _, hprepares.home, ?_, fun l hl => ?_,
      fun l hl hnot => ?_⟩
    · -- making directories has left the bytes of the file as they were
      rw [find?_insert_self t _ hlocation, contentAt_eq, contentAt_eq,
        file?_congr (hprepares.other _ hbelow)]
    · have hother : l ≠ (Path.normal tree.home path).location := by
        rintro rfl
        exact hbelow hl
      rw [find?_insert_of_ne t _ hother]
      exact hprepares.above l hl
    · rw [find?_insert_of_ne t _ hl]
      exact hprepares.other l hnot
  · obtain ⟨cause, hcause⟩ := hrefused hpasses
    exact ⟨cause, t, append_of_openLocation_error hcause _, hprepares⟩

/-- Two dots behind a directory that is there, and two directories that are missing. -/
theorem deliver_creates_nested :
    let tree : FileTree := ⟨["W".toList], [(["W".toList], .directory),
      (["W".toList, "d".toList], .directory)]⟩
    let path : Text := "d/.././new//x/log".toList
    tree.IsRegular ∧ NamesFile path ∧ tree.Fits path ∧ tree.Passes path ∧
      (Path.normal tree.home path).location =
        ["W".toList, "new".toList, "x".toList, "log".toList] ∧
      ∃ tree', tree.deliver path (.utf8 false) "m".toList = (tree', .ok ()) ∧
        tree.Creates (Path.normal tree.home path).location
          (Utf8.encode (terminated "m".toList)) tree' := by
  intro tree path
  have hregular : tree.IsRegular :=
    ⟨isClosed_of_forall_mem (by decide), by decide, by decide, by decide⟩
  have hname : NamesFile path := by decide
  have hfits : tree.Fits path := ⟨by decide, by decide, by decide⟩
  have hpasses : tree.Passes path := by decide
  have habove : ∀ l ∈ (Path.normal tree.home path).parent.location.inits,
      tree.find? l = none ∨ tree.find? l = some .directory := by decide
  have hcreates := deliver_creates hregular (by decide) hname hfits
    (fun l hl => habove l ((List.mem_inits _ _).mpr hl)) (by decide) "m".toList
  exact ⟨hregular, hname, hfits, hpasses, by decide, hcreates.1 hpasses⟩

/-- **A directory that is only passed through is not made**: the file at the normal form of the path
could be made, but the path as it is spelled leads nowhere. -/
theorem deliver_creates_refused :
    let tree : FileTree := ⟨["W".toList], [(["W".toList], .directory)]⟩
    let path : Text := "a/../b".toList
    tree.IsRegular ∧ hasNull path = false ∧ NamesFile path ∧ tree.Fits path ∧
      (Path.normal tree.home path).location = ["W".toList, "b".toList] ∧
      tree.find? ["W".toList] = some .directory ∧ tree.find? ["W".toList, "b".toList] = none ∧
      tree.deliver path (.utf8 false) "m".toList = (tree, .error (.refused .notFound path)) := by
  intro tree path
  have hregular : tree.IsRegular :=
    ⟨isClosed_of_forall_mem (by decide), by decide, by decide, by decide⟩
  exact ⟨hregular, by decide, by decide, ⟨by decide, by decide, by decide⟩, by decide, by decide,
    by decide, rfl⟩

end FileTree

end Marginalia
