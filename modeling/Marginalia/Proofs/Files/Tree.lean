import Marginalia.Delivery
import Marginalia.Proofs.Text.Ends

/-!
# What stands in the way of a file

The file system may refuse to make a directory or to open a file. Apart from that, a text reaches a
path unless the path holds the character of code point zero, or the directory does that relative
paths start from.

## Main definitions

* `Location.IsPlain`: the names on the way hold no character of code point zero
* `OnlyHindered`: what may hinder an operation
* `FileTree.Ensures`: how a directory comes to be there with those above it

## Main results

* `Path.isPlain_normal`: the normal form of a plain path is plain
* `FileTree.onlyHindered_deliver`: what keeps a text from a path
* `FileTree.home_deliver`: relative paths start from the same directory afterwards
-/

namespace Marginalia

open FileTree

/-! ## Plain paths -/

/-- The names on the way hold no character of code point zero. -/
def Location.IsPlain (l : Location) : Prop := ∀ name ∈ l, hasNull name = false

instance (l : Location) : Decidable l.IsPlain :=
  inferInstanceAs (Decidable (∀ name ∈ l, hasNull name = false))

theorem FileTree.hasNull_eq_false_iff {s : Text} :
    hasNull s = false ↔ ∀ c ∈ s, c.toNat ≠ 0 := by
  simp [hasNull]

theorem Text.mem_of_mem_splitAt {sep c : Char} {s part : Text} (hp : part ∈ Text.splitAt sep s)
    (hc : c ∈ part) : c ∈ s := by
  induction s generalizing part with
  | nil =>
    rw [Text.splitAt, List.mem_singleton] at hp
    rwa [hp] at hc
  | cons d s ih =>
    rw [Text.splitAt] at hp
    split at hp
    · rcases List.mem_cons.mp hp with rfl | hp
      · cases hc
      · exact List.mem_cons_of_mem d (ih hp hc)
    · cases hs : Text.splitAt sep s with
      | nil =>
        rw [hs, Text.glue, List.mem_singleton] at hp
        rw [hp, List.mem_singleton] at hc
        exact List.mem_cons.mpr (Or.inl hc)
      | cons first rest =>
        rw [hs, Text.glue, List.mem_cons] at hp
        rcases hp with rfl | hp
        · rcases List.mem_cons.mp hc with rfl | hc
          · exact List.mem_cons_self
          · exact List.mem_cons_of_mem d (ih (hs ▸ List.mem_cons_self) hc)
        · exact List.mem_cons_of_mem d (ih (hs ▸ List.mem_cons_of_mem first hp) hc)

namespace Path

theorem isPlain_stepTo {here : Location} {part : Name} (hh : here.IsPlain)
    (hp : hasNull part = false) : (stepTo here part).IsPlain := by
  unfold stepTo
  split
  · exact hh
  split
  · exact fun name h => hh name (List.dropLast_subset here h)
  · exact List.forall_mem_append.mpr ⟨hh, List.forall_mem_singleton.mpr hp⟩

theorem isPlain_clean {here : Location} {parts : List Name} (hh : here.IsPlain)
    (hp : ∀ part ∈ parts, hasNull part = false) : (clean here parts).IsPlain := by
  induction parts generalizing here with
  | nil => exact hh
  | cons part rest ih =>
    obtain ⟨hpart, hrest⟩ := List.forall_mem_cons.mp hp
    exact ih (isPlain_stepTo hh hpart) hrest

/-- **The normal form of a plain path is plain.** -/
theorem isPlain_normal {home : Location} {raw : Text} (hh : home.IsPlain)
    (hr : hasNull raw = false) : (normal home raw).location.IsPlain := by
  have hparts : ∀ part ∈ parts raw, hasNull part = false := fun part hp =>
    hasNull_eq_false_iff.mpr fun c hc =>
      hasNull_eq_false_iff.mp hr c (Text.mem_of_mem_splitAt hp hc)
  refine isPlain_clean ?_ hparts
  split
  · exact fun name h => absurd h List.not_mem_nil
  · exact hh

end Path

/-- **The text of a plain path holds no character of code point zero.** -/
theorem AbsolutePath.hasNull_text {p : AbsolutePath} (h : p.location.IsPlain) :
    hasNull p.text = false := by
  refine hasNull_eq_false_iff.mpr fun c hc => ?_
  have hslash : ∀ d ∈ ['/', '/'], d.toNat ≠ 0 := by decide
  rcases List.mem_append.mp hc with hc | hc
  · split at hc
    · exact hslash c hc
    · exact hslash c (List.mem_cons_of_mem _ hc)
  · rcases Text.mem_joined hc with hc | ⟨name, hn, hc⟩
    · exact hslash c (List.mem_cons_of_mem _ hc)
    · exact hasNull_eq_false_iff.mp (h name hn) c hc

/-! ## Operations on files -/

/-- Nothing but the file system hinders an operation; where a path is not plain, the character of
code point zero may as well. -/
def OnlyHindered {α : Type} (plain : Prop) (x : Except FileFault α) : Prop :=
  ∀ e, x = .error e → (∃ f, e = .system f) ∨ e = .nullByte ∧ ¬ plain

variable {α : Type} {plain plain' : Prop}

theorem onlyHindered_ok (a : α) : OnlyHindered plain (Except.ok a) := nofun

theorem onlyHindered_refused (cause : SystemCause) (path : Text) :
    OnlyHindered plain (.error (.refused cause path) : Except FileFault α) :=
  fun _ h => Or.inl ⟨_, (Except.error.inj h).symm⟩

theorem onlyHindered_nullByte (h : ¬ plain) :
    OnlyHindered plain (.error .nullByte : Except FileFault α) :=
  fun _ he => Or.inr ⟨(Except.error.inj he).symm, h⟩

theorem OnlyHindered.mono {x : Except FileFault α} (h : OnlyHindered plain x)
    (hp : plain' → plain) : OnlyHindered plain' x := fun e he => (h e he).imp_right fun ⟨hnull, hn⟩ => ⟨hnull, hn ∘ hp⟩

namespace FileTree

variable (tree : FileTree)

theorem onlyHindered_makeDirectory (location : Location) (shown : Text) :
    OnlyHindered (hasNull shown = false) (tree.makeDirectory location shown).2 := by
  unfold makeDirectory
  split
  · next hnull => exact onlyHindered_nullByte (by simp [hnull])
  repeat' split
  all_goals first | exact onlyHindered_ok _ | exact onlyHindered_refused _ _

@[simp] theorem home_makeDirectory (location : Location) (shown : Text) :
    (tree.makeDirectory location shown).1.home = tree.home := by
  unfold makeDirectory
  repeat' split
  all_goals rfl

/-- How a directory comes to be there with those above it, given the names in reverse: it may be
there, those above it may be refused, or it is made or refused below them. A refusal does not matter
if it is there. -/
inductive Ensures (tree : FileTree) (doubled : Bool) : List Name → Effect Unit → Prop
  | there (names : List Name) : Ensures tree doubled names (tree, .ok ())
  | refused {name : Name} {above : List Name} {t : FileTree} {e : FileFault}
    (h : Ensures tree doubled above (t, .error e)) :
    Ensures tree doubled (name :: above) (t, .error e)
  | made {name : Name} {above : List Name} {t : FileTree}
    (h : Ensures tree doubled above (t, .ok ())) :
    Ensures tree doubled (name :: above) (t.makeDirectory (above.reverse ++ [name])
      (AbsolutePath.text ⟨doubled, above.reverse ++ [name]⟩))
  | kept {name : Name} {above : List Name} {t : FileTree}
    (h : Ensures tree doubled above (t, .ok ())) :
    Ensures tree doubled (name :: above) ((t.makeDirectory (above.reverse ++ [name])
      (AbsolutePath.text ⟨doubled, above.reverse ++ [name]⟩)).1, .ok ())

theorem ensures_ensureUp (doubled : Bool) (names : List Name) :
    Ensures tree doubled names (tree.ensureUp doubled names) := by
  induction names with
  | nil => exact .there []
  | cons name above ih =>
    have hup : Ensures tree doubled above
        (if tree.occupied above.reverse then (tree, .ok ()) else tree.ensureUp doubled above) := by
      split
      · exact .there above
      · exact ih
    rw [ensureUp]
    dsimp only
    generalize (if tree.occupied above.reverse then (tree, .ok ())
      else tree.ensureUp doubled above : Effect Unit) = x at hup ⊢
    obtain ⟨t, e | u⟩ := x
    · exact .refused hup
    have hmade : Ensures tree doubled (name :: above) _ := .made hup
    have hkept : Ensures tree doubled (name :: above) _ := .kept hup
    dsimp only
    generalize t.makeDirectory _ _ = y at hmade hkept ⊢
    obtain ⟨t', e | u⟩ := y
    · dsimp only
      split
      · exact hkept
      · exact hmade
    · exact hmade

theorem onlyHindered_ensureUp (doubled : Bool) (names : List Name) :
    OnlyHindered (Location.IsPlain names) (tree.ensureUp doubled names).2 := by
  have h := ensures_ensureUp tree doubled names
  generalize tree.ensureUp doubled names = x at h ⊢
  induction h with
  | there => exact onlyHindered_ok ()
  | refused _ ih => exact ih.mono fun h => (List.forall_mem_cons.mp h).2
  | made =>
    refine (onlyHindered_makeDirectory _ _ _).mono fun h => ?_
    exact AbsolutePath.hasNull_text fun n hn =>
      h n (List.mem_reverse.mp (by rwa [List.reverse_cons]))
  | kept => exact onlyHindered_ok ()

@[simp] theorem home_ensureUp (doubled : Bool) (names : List Name) :
    (tree.ensureUp doubled names).1.home = tree.home := by
  have h := ensures_ensureUp tree doubled names
  generalize tree.ensureUp doubled names = x at h ⊢
  induction h with
  | there => rfl
  | refused _ ih => exact ih
  | made _ ih => exact (home_makeDirectory _ _ _).trans ih
  | kept _ ih => exact (home_makeDirectory _ _ _).trans ih

theorem onlyHindered_openLocation (raw : Text) :
    OnlyHindered (hasNull raw = false) (tree.openLocation raw) := by
  unfold openLocation
  split
  · next hnull => exact onlyHindered_nullByte (by simp [hnull])
  repeat' split
  all_goals first | exact onlyHindered_ok _ | exact onlyHindered_refused _ _

theorem onlyHindered_append (raw s : Text) :
    OnlyHindered (hasNull raw = false) (tree.append raw (.utf8 false) s).2 := by
  have hopen := onlyHindered_openLocation tree raw
  rw [append, if_neg (by simp [Encoding.opens])]
  generalize tree.openLocation raw = x at hopen ⊢
  cases x with
  | error e => exact fun e he => hopen e (congrArg Except.error (Except.error.inj he))
  | ok location => exact onlyHindered_ok ()

@[simp] theorem home_append (encoding : Encoding) (raw s : Text) :
    (tree.append raw encoding s).1.home = tree.home := by
  unfold append
  dsimp only
  repeat' split
  all_goals rfl

@[simp] theorem home_deliver (encoding : Encoding) (path s : Text) :
    (tree.deliver path encoding s).1.home = tree.home := by
  have hensure := home_ensureUp tree (Path.normal tree.home path).parent.doubled
    (Path.normal tree.home path).parent.location.reverse
  unfold deliver ensure
  split
  · rfl
  generalize tree.ensureUp _ _ = x at hensure ⊢
  obtain ⟨t, e | u⟩ := x
  · exact hensure
  · exact (home_append _ encoding path _).trans hensure

/-- **What keeps a text from a path**: the file system, or the character of code point zero. -/
theorem onlyHindered_deliver {path : Text} (hne : path.isEmpty = false) (s : Text) :
    OnlyHindered (tree.home.IsPlain ∧ hasNull path = false)
      (tree.deliver path (.utf8 false) s).2 := by
  have hparent : tree.home.IsPlain ∧ hasNull path = false →
      Location.IsPlain (Path.normal tree.home path).parent.location.reverse :=
    fun ⟨hh, hp⟩ name h => Path.isPlain_normal hh hp name
      (List.dropLast_subset _ (List.mem_reverse.mp h))
  have hensure := (onlyHindered_ensureUp tree (Path.normal tree.home path).parent.doubled
    (Path.normal tree.home path).parent.location.reverse).mono hparent
  unfold deliver ensure
  rw [hne, if_neg Bool.false_ne_true]
  generalize tree.ensureUp _ _ = x at hensure ⊢
  obtain ⟨t, e | u⟩ := x
  · exact hensure
  · exact (onlyHindered_append _ path _).mono And.right

end FileTree

end Marginalia
