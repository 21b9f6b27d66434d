import Mathlib.Data.List.Basic
import Marginalia.Proofs.Files.Tree

/-!
# What a delivery does to a file tree

A path that opens a file opens it at the location of its normal form, whatever way it is spelled.
Before that, directories may have been made on the way, but only where nothing stood. The text is
added at the end of the file, and a delivery that fails leaves at most new directories.

## Main definitions

* `Location.IsProper`: no name on the way stands for a step that stays or leads back
* `FileTree.file?`: the bytes of the file at a location
* `FileTree.Grows`: a tree with new directories where nothing stood

## Main results

* `FileTree.walk_eq_ok`: parts lead to where normalising leads
* `FileTree.openLocation_eq_ok`: where a path opens a file
* `FileTree.grows_ensureUp`: what making a directory changes
* `FileTree.deliver_eq_ok`, `FileTree.grows_deliver_of_error`: what a delivery changes
-/

namespace Marginalia

/-! ## Proper locations -/

/-- No name on the way is empty, a dot or two dots. -/
def Location.IsProper (l : Location) : Prop :=
  ∀ name ∈ l, name ≠ [] ∧ name ≠ Path.dot ∧ name ≠ Path.dots

instance (l : Location) : Decidable l.IsProper :=
  inferInstanceAs (Decidable (∀ name ∈ l, name ≠ [] ∧ name ≠ Path.dot ∧ name ≠ Path.dots))

namespace Path

theorem stepTo_of_proper {name : Name} (h : name ≠ [] ∧ name ≠ dot ∧ name ≠ dots)
    (here : Location) : stepTo here name = here ++ [name] := by
  simp [stepTo, h]

/-- **A proper location is its own normal form.** -/
theorem clean_of_proper {l : Location} (h : l.IsProper) (here : Location) :
    clean here l = here ++ l := by
  induction l generalizing here with
  | nil => exact (List.append_nil here).symm
  | cons name l ih =>
    obtain ⟨hname, hl⟩ := List.forall_mem_cons.mp h
    change clean (stepTo here name) l = _
    rw [stepTo_of_proper hname, ih hl, List.append_assoc, List.singleton_append]

theorem isProper_stepTo {here : Location} (h : here.IsProper) (part : Name) :
    (stepTo here part).IsProper := by
  unfold stepTo
  split
  · exact h
  split
  · exact fun name hn => h name (List.dropLast_subset here hn)
  · next hstay hback =>
      obtain ⟨hne, hdot⟩ := not_or.mp hstay
      refine List.forall_mem_append.mpr ⟨h, List.forall_mem_singleton.mpr ⟨?_, hdot, hback⟩⟩
      rintro rfl
      exact hne rfl

theorem isProper_clean {here : Location} (h : here.IsProper) (parts : List Name) :
    (clean here parts).IsProper := by
  induction parts generalizing here with
  | nil => exact h
  | cons part rest ih => exact ih (isProper_stepTo h part)

/-- **The normal form of a path is proper.** -/
theorem isProper_normal {home : Location} (h : home.IsProper) (raw : Text) :
    (normal home raw).location.IsProper := by
  refine isProper_clean ?_ _
  split
  · exact fun name hn => absurd hn List.not_mem_nil
  · exact h

end Path

namespace FileTree

/-! ## Where paths lead -/

section Walk

variable {tree : FileTree} {here there : Location}

theorem enter_eq_ok {part : Name} (h : tree.enter here part = .ok there) :
    there = Path.stepTo here part := by
  unfold enter at h
  split at h
  · exact (Except.ok.inj h).symm
  · next hpart =>
      obtain ⟨hne, hdot, hdots⟩ : part ≠ [] ∧ part ≠ Path.dot ∧ part ≠ Path.dots := by
        simpa [not_or] using hpart
      rw [Path.stepTo_of_proper ⟨hne, hdot, hdots⟩]
      -- of what may stand there, only a directory is entered
      split at h
      · cases h
      · cases h
      · cases h
      · exact (Except.ok.inj h).symm

/-- **Parts lead to where normalising leads**, if they lead anywhere. -/
theorem walk_eq_ok {parts : List Name} (h : tree.walk here parts = .ok there) :
    there = Path.clean here parts := by
  induction parts generalizing here with
  | nil => exact (Except.ok.inj h).symm
  | cons part rest ih =>
    rw [walk] at h
    split at h
    · cases h
    · next next hnext =>
        rw [ih h, enter_eq_ok hnext]
        rfl

theorem walk_proper_eq_ok {l : Location} (hl : l.IsProper) (h : tree.walk [] l = .ok there) :
    there = l := by
  rw [walk_eq_ok h, Path.clean_of_proper hl, List.nil_append]

theorem child?_eq_ok {name : Name} {e : Option Entry} (h : tree.child? here name = .ok e) :
    tree.find? (here ++ [name]) = e := by
  unfold child? at h
  split at h
  · cases h
  · exact Except.ok.inj h

theorem openParts_eq_ok {parts : List Name} (h : tree.openParts here parts = .ok there) :
    there = Path.clean here parts ∧ there ≠ [] ∧ tree.find? there ≠ some .directory := by
  unfold openParts at h
  dsimp only at h
  have hsuffix : (parts.reverse.dropWhile List.isEmpty).reverse <+: parts := by
    rw [← List.reverse_suffix, List.reverse_reverse]
    exact List.dropWhile_suffix _
  generalize (parts.reverse.dropWhile List.isEmpty).reverse = named at h hsuffix
  split at h
  · cases h
  next hlast =>
  split at h
  · cases h
  next dir hwalk =>
  split at h
  · cases h
  next hdots =>
  split at h
  · cases h
  next hlength =>
  split at h
  · cases h
  · cases h
  next e hdir hchild =>
  -- no part is left out at the end, so the last part names the file
  have hparts : named = parts := hsuffix.eq_of_length_le (Nat.le_of_not_lt hlength)
  subst hparts
  obtain ⟨last, hgetLast⟩ : ∃ last, named.getLast? = some last := by
    cases hg : named.getLast? with
    | none => exact absurd (by rw [hg]; rfl) hlast
    | some last => exact ⟨last, rfl⟩
  rw [hgetLast, Option.getD_some] at hlast hdots hchild h
  obtain rfl := Except.ok.inj h
  have hproper : last ≠ [] ∧ last ≠ Path.dot ∧ last ≠ Path.dots := by
    simpa [not_or] using And.intro hlast hdots
  refine ⟨?_, by simp, ?_⟩
  · rw [← List.dropLast_append_getLast? last hgetLast, Path.clean_append, walk_eq_ok hwalk]
    exact (Path.stepTo_of_proper hproper _).symm
  · rw [child?_eq_ok hchild]
    rintro rfl
    exact hdir rfl

/-- **Where a path opens a file**: at the location of its normal form, where no directory
stands. -/
theorem openLocation_eq_ok {raw : Text} {location : Location}
    (h : tree.openLocation raw = .ok location) :
    location = (Path.normal tree.home raw).location ∧ location ≠ [] ∧
      tree.find? location ≠ some .directory := by
  unfold openLocation at h
  split at h
  · cases h
  split at h
  · cases h
  split at h
  · cases h
  split at h
  · cases h
  · next hopen =>
      obtain rfl := Except.ok.inj h
      exact openParts_eq_ok hopen

end Walk

/-! ## Files and directories -/

/-- The bytes of the file at a location. -/
def file? (tree : FileTree) (location : Location) : Option Bytes :=
  match tree.find? location with
  | some (.file content) => some content
  | _ => none

theorem contentAt_eq (tree : FileTree) (location : Location) :
    tree.contentAt location = (tree.file? location).getD [] := by
  unfold contentAt file?
  split <;> simp_all

theorem file?_congr {tree tree' : FileTree} {location : Location}
    (h : tree'.find? location = tree.find? location) :
    tree'.file? location = tree.file? location := by
  rw [file?, file?, h]

/-- A tree with new directories where nothing stood. -/
structure Grows (tree tree' : FileTree) : Prop where
  home : tree'.home = tree.home
  find? : ∀ location, tree'.find? location = tree.find? location ∨
    tree.find? location = none ∧ tree'.find? location = some .directory

namespace Grows

variable {tree tree' tree'' : FileTree}

theorem refl (tree : FileTree) : tree.Grows tree := ⟨rfl, fun _ => Or.inl rfl⟩

theorem trans (h : tree.Grows tree') (h' : tree'.Grows tree'') : tree.Grows tree'' := by
  refine ⟨h'.home.trans h.home, fun location => ?_⟩
  rcases h.find? location with hf | ⟨hf, hd⟩ <;> rcases h'.find? location with hf' | ⟨hf', hd'⟩
  · exact Or.inl (hf'.trans hf)
  · exact Or.inr ⟨hf ▸ hf', hd'⟩
  · exact Or.inr ⟨hf, hf'.trans hd⟩
  · rw [hd] at hf'
    cases hf'

/-- **New directories leave all files as they are.** -/
theorem file? (h : tree.Grows tree') (location : Location) :
    tree'.file? location = tree.file? location := by
  rcases h.find? location with hf | ⟨hf, hd⟩
  · exact file?_congr hf
  · rw [FileTree.file?, FileTree.file?, hf, hd]

/-- New directories stand where there is no other. -/
theorem directory (h : tree.Grows tree') {location : Location}
    (hd : tree.find? location = some .directory) : tree'.find? location = some .directory := by
  rcases h.find? location with hf | ⟨hf, -⟩
  · exact hf.trans hd
  · rw [hd] at hf
    cases hf

end Grows

variable (tree : FileTree)

theorem grows_insert_directory {location : Location} (h : tree.find? location = none) :
    tree.Grows (tree.insert location .directory) := by
  refine ⟨rfl, fun other => ?_⟩
  by_cases ho : other = location
  · subst ho
    refine Or.inr ⟨h, find?_insert_self tree _ ?_⟩
    rintro rfl
    cases h
  · exact Or.inl (find?_insert_of_ne tree _ ho)

theorem grows_makeDirectory {location : Location} (hl : location.IsProper) (shown : Text) :
    tree.Grows (tree.makeDirectory location shown).1 := by
  unfold makeDirectory
  split
  · exact .refl tree
  split
  · exact .refl tree
  cases hlast : location.getLast? with
  | none => simpa [parentAndName?, hlast] using .refl tree
  | some name =>
    simp only [parentAndName?, hlast, Option.map_some]
    have hlocation : location.dropLast ++ [name] = location :=
      List.dropLast_append_getLast? name hlast
    split
    · exact .refl tree
    next there hwalk =>
    split
    · exact .refl tree
    · exact .refl tree
    next hchild =>
    -- the walk to the directory above ends there, so that the place looked at is the place filled
    have hthere : there = location.dropLast := walk_proper_eq_ok
      (fun part hp => hl part (List.dropLast_subset location hp)) hwalk
    refine grows_insert_directory tree ?_
    rw [← child?_eq_ok hchild, hthere, hlocation]

/-- **What making a directory changes**: directories appear where nothing stood. -/
theorem grows_ensureUp (doubled : Bool) {names : List Name} (hn : Location.IsProper names) :
    tree.Grows (tree.ensureUp doubled names).1 := by
  have h := ensures_ensureUp tree doubled names
  generalize tree.ensureUp doubled names = x at h ⊢
  induction h with
  | there => exact .refl tree
  | refused _ ih => exact ih (List.forall_mem_cons.mp hn).2
  | made _ ih =>
    refine (ih (List.forall_mem_cons.mp hn).2).trans (grows_makeDirectory _ ?_ _)
    exact fun part hp => hn part (List.mem_reverse.mp (by rwa [List.reverse_cons]))
  | kept _ ih =>
    refine (ih (List.forall_mem_cons.mp hn).2).trans (grows_makeDirectory _ ?_ _)
    exact fun part hp => hn part (List.mem_reverse.mp (by rwa [List.reverse_cons]))

theorem grows_ensure_parent (hh : tree.home.IsProper) (path : Text) :
    tree.Grows (tree.ensure (Path.normal tree.home path).parent).1 :=
  grows_ensureUp tree _ fun name hn => Path.isProper_normal hh path name
    (List.dropLast_subset _ (List.mem_reverse.mp hn))

/-! ## Deliveries -/

/-- A tree with bytes added at the end of the file at a location, which is made if there is none. -/
structure Adds (tree : FileTree) (location : Location) (added : Bytes) (tree' : FileTree) :
    Prop where
  home : tree'.home = tree.home
  file : tree'.file? location = some ((tree.file? location).getD [] ++ added)
  other : ∀ l, l ≠ location → tree'.file? l = tree.file? l
  directory : ∀ l, tree.find? l = some .directory → tree'.find? l = some .directory

variable {tree} {tree' : FileTree} {path s : Text}

/-- Directories made on the way do not matter to what is added. -/
theorem Grows.trans_adds {tree'' : FileTree} {location : Location} {added : Bytes}
    (h : tree.Grows tree') (h' : tree'.Adds location added tree'') :
    tree.Adds location added tree'' where
  home := h'.home.trans h.home
  file := by rw [h'.file, h.file?]
  other l hl := (h'.other l hl).trans (h.file? l)
  directory l hd := h'.directory l (h.directory hd)

theorem append_eq_ok (h : tree.append path (.utf8 false) s = (tree', .ok ())) :
    tree.Adds (Path.normal tree.home path).location (Utf8.encode s) tree' := by
  rw [append, if_neg (by simp [Encoding.opens])] at h
  split at h
  · cases h
  next location hopen =>
  obtain ⟨rfl, hne, hfree⟩ := openLocation_eq_ok hopen
  dsimp only at h
  rw [Encoding.encode_utf8] at h
  obtain ⟨rfl, -⟩ := Prod.mk.inj h
  refine ⟨rfl, ?_, fun l hl => file?_congr (find?_insert_of_ne tree _ hl), fun l hd => ?_⟩
  · rw [file?, find?_insert_self tree _ hne, contentAt_eq]
  · rw [find?_insert_of_ne tree _ ?_, hd]
    rintro rfl
    exact hfree hd

theorem fst_append_of_error {e : FileFault} (h : (tree.append path (.utf8 false) s).2 = .error e) :
    (tree.append path (.utf8 false) s).1 = tree := by
  unfold append at h ⊢
  dsimp only at h ⊢
  split
  · rfl
  next hopens =>
  rw [if_neg hopens] at h
  split
  · rfl
  next location hopen =>
  -- once the file is open nothing fails, since every text has bytes
  rw [hopen] at h
  simp only [Encoding.encode_utf8, reduceCtorEq] at h

/-- **What a delivery changes**: the text is added to the file that the path names. -/
theorem deliver_eq_ok (hh : tree.home.IsProper)
    (h : tree.deliver path (.utf8 false) s = (tree', .ok ())) :
    tree.Adds (Path.normal tree.home path).location (Utf8.encode (terminated s)) tree' := by
  have hgrows := grows_ensure_parent tree hh path
  unfold deliver at h
  split at h
  · cases h
  generalize tree.ensure _ = x at h hgrows
  obtain ⟨t, e | u⟩ := x
  · cases h
  · rw [← hgrows.home]
    exact hgrows.trans_adds (append_eq_ok h)

/-- **What a delivery that fails changes**: there may be new directories. -/
theorem grows_deliver_of_error (hh : tree.home.IsProper) {e : FileFault}
    (h : (tree.deliver path (.utf8 false) s).2 = .error e) :
    tree.Grows (tree.deliver path (.utf8 false) s).1 := by
  have hgrows := grows_ensure_parent tree hh path
  unfold deliver at h ⊢
  split
  · exact .refl tree
  next hne =>
  rw [if_neg hne] at h
  generalize tree.ensure _ = x at h hgrows ⊢
  obtain ⟨t, e' | u⟩ := x
  · exact hgrows
  · dsimp only at h ⊢
    rw [fst_append_of_error h]
    exact hgrows

end FileTree

end Marginalia
