import Marginalia.Invocation
import Marginalia.Program.Evaluation
import Marginalia.Proofs.Text.Words

/-!
# Finding the library

A debug call finds the library through a name of every program. A program that binds the name to
something else, in the code that is running or outside functions, does not find it, and neither does
a program that is run under names which put others in the place of those of the language.

## Main definitions

* `Program.libraryNames`: the names that hide the library where they are bound
* `Program.LeavesLibrary`, `Program.SparesLibrary`: names that do not hide the library
* `Program.Scope.IsOpen`: scopes that do not hide the library

## Main results

* `Value.lookup?_insert_of_ne`: an insertion hides no other name
* `Program.lookup_importWord`: the library is found where no name hides it
-/

namespace Marginalia

namespace Value

/-- An insertion concerns its own name only. -/
theorem lookup?_insert_of_ne {name other : Text} (h : other ≠ name) (v : Value)
    (entries : Entries) : lookup? name (insert (.text other) v entries) = lookup? name entries := by
  induction entries with
  | nil => simp [insert, lookup?, h]
  | cons e rest ih =>
    obtain ⟨k, w⟩ := e
    by_cases hk : equals k (.text other) = true
    · obtain rfl := eq_text_of_equals hk
      simp [insert, equals_text, lookup?, h]
    · cases k <;> simp_all [insert, lookup?]

end Value

namespace Text

variable {sep : Char → Bool} {c d : Char} {s u v : Text}

/-- The word between two separators. -/
theorem mem_words_of_take (hc : sep c = true) (hd : sep d = true) (hv : v ≠ [])
    (hs : ∀ e ∈ v, sep e = false) (h : s.take (u.length + v.length + 2) = u ++ c :: (v ++ [d]))
    (r : Text) : v ∈ words sep (s ++ r) := by
  rw [← List.take_append_drop (u.length + v.length + 2) s, h]
  simp only [List.append_assoc, List.cons_append]
  rw [words_append_sep hc, words_append_sep hd, words_of_forall hv hs]
  simp

end Text

namespace Program

/-- The names that hide the library where they are bound. -/
def libraryNames : List Text := [Invocation.importWord, namesWord]

/-- Names and values that do not hide the library. -/
def LeavesLibrary (globals : Entries) : Prop := ∀ n ∈ libraryNames, Value.lookup? n globals = none

theorem leavesLibrary_iff {globals : Entries} : LeavesLibrary globals ↔
    (libraryNames.all fun n => (Value.lookup? n globals).isNone) = true := by
  simp [LeavesLibrary]

instance (globals : Entries) : Decidable (LeavesLibrary globals) :=
  decidable_of_iff _ leavesLibrary_iff.symm

/-- A name that hides nothing may be bound. -/
theorem LeavesLibrary.insert {globals : Entries} (h : LeavesLibrary globals) {n : Text}
    (hn : n ∉ libraryNames) (v : Value) : LeavesLibrary (Value.insert (.text n) v globals) := by
  intro m hm
  have hne : n ≠ m := fun he => hn (he ▸ hm)
  exact (Value.lookup?_insert_of_ne hne v globals).trans (h m hm)

/-- Names without those that hide the library. -/
def SparesLibrary (names : List Text) : Prop := ∀ n ∈ libraryNames, n ∉ names

theorem SparesLibrary.notMem {names : List Text} (h : SparesLibrary names) {n : Text}
    (hn : n ∈ names) : n ∉ libraryNames := fun hl => h n hl hn

/-- A scope that does not hide the library. -/
def Scope.IsOpen : Scope → Prop
  | .outside => True
  | .inside names _ => Invocation.importWord ∉ names

theorem importWord_mem_standardFunctions : Invocation.importWord ∈ standardFunctions := by
  rw [standardFunctions, String.toList_append, String.toList_append, String.toList_append]
  simp only [List.append_assoc]
  exact Text.mem_words_of_take (u := "__build_class__".toList) (c := ' ') (d := ' ') (by decide)
    (by decide) (by decide) (by decide) (by decide +kernel) _

theorem standard?_of_mem_standardFunctions {n : Text} (hc : standardConstants.lookup n = none)
    (ho : standardObjects.lookup n = none) (hf : n ∈ standardFunctions) :
    standard? n = some (standardFunction n) := by
  have h := List.contains_iff_mem.mpr hf
  simp only [standard?, hc, ho, h, if_true]

theorem standard?_importWord : standard? Invocation.importWord =
    some (standardFunction Invocation.importWord) :=
  standard?_of_mem_standardFunctions (Option.isNone_iff_eq_none.mp (by decide +kernel))
    (Option.isNone_iff_eq_none.mp (by decide +kernel)) importWord_mem_standardFunctions

/-- A name of every program that the program does not bind. -/
theorem lookup_standard (σ : Store) {globals : Entries} {scope : Scope} {n : Text} {v : Value}
    (hg : Value.lookup? n globals = none) (hnames : Value.lookup? namesWord globals = none)
    (hv : standard? n = some v) (hs : ∀ names bound, scope = .inside names bound → n ∉ names) :
    lookup σ globals n scope = .ok v := by
  have hglobal : lookupGlobal σ globals n = .ok v := by
    rw [lookupGlobal, hg, hnames]
    dsimp only
    rw [lookupStandard, hv]
  cases scope with
  | outside => exact hglobal
  | inside names bound => rw [lookup_global σ globals (hs names bound rfl)]; exact hglobal

/-- **The library is found** where no name hides it. -/
theorem lookup_importWord (σ : Store) {globals : Entries} {scope : Scope}
    (hg : LeavesLibrary globals) (hs : scope.IsOpen) :
    lookup σ globals Invocation.importWord scope =
      .ok (standardFunction Invocation.importWord) := by
  refine lookup_standard σ (hg _ List.mem_cons_self)
    (hg _ (List.mem_cons_of_mem _ List.mem_cons_self)) standard?_importWord fun _ _ h => ?_
  rw [h] at hs
  exact hs

theorem equals_foreign (o : Foreign) : Value.equals (.foreign o) (.foreign o) = true := by
  simp [Value.equals]

theorem equals_importWord : Value.equals (standardFunction Invocation.importWord)
    (standardFunction Invocation.importWord) = true := equals_foreign _

end Program

end Marginalia
