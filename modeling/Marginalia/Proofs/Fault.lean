import Mathlib.Data.List.Forall2
import Mathlib.Logic.Basic

/-!
# Steps with one fault

A step over a list stops at the first fault. Where all steps have the same fault, it does not matter
which of them stops first, and two passes over a list are one pass of two steps.

## Main definitions

* `FailsFor`: results that fail for causes with a property only
* `FailsWith`: results that are no other fault

## Main results

* `mapM_bind_of_failsWith`: two passes are one
* `mapM_eq_ok_iff`, `mapM_eq_error_iff`: a pass without a fault, item by item, and the first fault
* `exists_mapM_eq_ok`: a pass without a fault has a result
* `mapError_bind_congr`: computations that come to the same go on to the same
-/

namespace Marginalia

variable {ε ε' α β γ : Type}

/-- A result whose fault, if there is one, has the property. -/
def FailsFor (P : ε → Prop) (x : Except ε α) : Prop := ∀ e, x = .error e → P e

section FailsFor

variable {P : ε → Prop} {x : Except ε α}

theorem failsFor_ok (P : ε → Prop) (a : α) : FailsFor P (.ok a) := fun _ h => by cases h

theorem failsFor_error {e : ε} (h : P e) : FailsFor P (.error e : Except ε α) := by
  rintro _ ⟨⟩
  exact h

theorem FailsFor.imp {Q : ε → Prop} (h : FailsFor P x) (hPQ : ∀ e, P e → Q e) : FailsFor Q x :=
  fun e he => hPQ e (h e he)

theorem FailsFor.map (h : FailsFor P x) (f : α → β) : FailsFor P (x.map f) := by
  cases x with
  | ok a => exact failsFor_ok P (f a)
  | error e => exact failsFor_error (h e rfl)

/-- A fault that is put in other words. -/
theorem failsFor_mapError {f : ε → ε'} {Q : ε' → Prop} (h : ∀ e, Q (f e)) :
    FailsFor Q (x.mapError f) := by
  cases x with
  | ok a => exact failsFor_ok Q a
  | error e => exact failsFor_error (h e)

theorem FailsFor.bind (h : FailsFor P x) {f : α → Except ε β} (hf : ∀ a, FailsFor P (f a)) :
    FailsFor P (x >>= f) := by
  cases x with
  | ok a => exact hf a
  | error e => exact failsFor_error (h e rfl)

/-- A pass has the faults of its steps. -/
theorem FailsFor.mapM {f : α → Except ε β} (h : ∀ a, FailsFor P (f a)) (l : List α) :
    FailsFor P (l.mapM f) := by
  induction l with
  | nil => exact failsFor_ok P []
  | cons a l ih =>
    rw [List.mapM_cons]
    exact (h a).bind fun b => ih.bind fun bs => failsFor_ok P (b :: bs)

end FailsFor

/-- A result that is no fault other than `e`. -/
def FailsWith (e : ε) (x : Except ε α) : Prop := FailsFor (· = e) x

theorem failsWith_ok (e : ε) (a : α) : FailsWith e (.ok a) := failsFor_ok _ a

theorem FailsWith.map {e : ε} {x : Except ε α} (h : FailsWith e x) (f : α → β) :
    FailsWith e (x.map f) := FailsFor.map h f

/-- **Two passes over a list are one pass of two steps**, where all steps have the same fault. -/
theorem mapM_bind_of_failsWith {e : ε} {f : α → Except ε β} {g : β → Except ε γ}
    (hf : ∀ a, FailsWith e (f a)) (hg : ∀ b, FailsWith e (g b)) (l : List α) :
    l.mapM (fun a => f a >>= g) = l.mapM f >>= fun bs => bs.mapM g := by
  induction l with
  | nil => rfl
  | cons a l ih =>
    rw [List.mapM_cons, List.mapM_cons, ih]
    cases hfa : f a with
    | error e' => rfl
    | ok b =>
      cases hl : l.mapM f with
      | error e' =>
        -- the first pass stops here, the single pass perhaps one step earlier
        obtain rfl := FailsFor.mapM hf l e' hl
        change (g b >>= fun _ => .error e') = .error e'
        cases hgb : g b with
        | error e'' => rw [hg b e'' hgb]; rfl
        | ok c => rfl
      | ok bs =>
        change (g b >>= fun c => bs.mapM g >>= fun cs => pure (c :: cs)) = (b :: bs).mapM g
        rw [List.mapM_cons]

/-- **A pass without a fault**, item by item. -/
theorem mapM_eq_ok_iff {f : α → Except ε β} {l : List α} {bs : List β} :
    l.mapM f = .ok bs ↔ List.Forall₂ (fun a b => f a = .ok b) l bs := by
  induction l generalizing bs with
  | nil => exact ⟨fun h => by cases h; exact .nil, fun h => by cases h; rfl⟩
  | cons a l ih =>
    rw [List.mapM_cons]
    constructor
    · intro h
      cases hfa : f a with
      | error e => rw [hfa] at h; cases h
      | ok b =>
        cases hl : l.mapM f with
        | error e => rw [hfa, hl] at h; cases h
        | ok bs' =>
          rw [hfa, hl] at h
          cases h
          exact .cons hfa (ih.mp hl)
    · intro h
      cases h with
      | cons hfa hl => rw [hfa, ih.mpr hl]; rfl

/-- What becomes of the results of a pass becomes of the results of its steps. -/
theorem map_mapM {f : α → Except ε β} (g : β → γ) (l : List α) :
    (l.mapM f).map (List.map g) = l.mapM fun a => (f a).map g := by
  induction l with
  | nil => rfl
  | cons a l ih =>
    rw [List.mapM_cons, List.mapM_cons, ← ih]
    cases f a with
    | error e => rfl
    | ok b => cases l.mapM f <;> rfl

/-- **The first fault ends a pass**, whatever comes after it. -/
theorem mapM_eq_error_iff {f : α → Except ε β} {l : List α} {e : ε} : l.mapM f = .error e ↔
    ∃ before a after, l = before ++ a :: after ∧ (∀ a' ∈ before, ∃ b, f a' = .ok b) ∧
      f a = .error e := by
  induction l with
  | nil =>
    constructor
    · intro h
      cases h
    · rintro ⟨before, a, after, h, -⟩
      simp at h
  | cons first l ih =>
    rw [List.mapM_cons]
    cases hfirst : f first with
    | error e' =>
      constructor
      · intro h
        obtain rfl := Except.error.inj h
        exact ⟨[], first, l, rfl, nofun, hfirst⟩
      · rintro ⟨before, a, after, h, hbefore, he⟩
        cases before with
        | nil =>
          obtain ⟨rfl, -⟩ := List.cons.inj h
          exact congrArg Except.error (Except.error.inj (hfirst.symm.trans he))
        | cons a' before =>
          -- the first item is no fault where something stands before the fault
          obtain ⟨rfl, -⟩ := List.cons.inj h
          obtain ⟨b, hb⟩ := hbefore _ List.mem_cons_self
          cases hfirst.symm.trans hb
    | ok b =>
      have hrest : ((Except.ok b : Except ε β) >>= fun b => l.mapM f >>= fun bs => pure (b :: bs)) =
          .error e ↔ l.mapM f = .error e := by
        change (l.mapM f >>= fun bs => .ok (b :: bs)) = .error e ↔ _
        cases l.mapM f with
        | error e' => exact Iff.rfl
        | ok bs => exact iff_of_false nofun nofun
      rw [hrest, ih]
      constructor
      · rintro ⟨before, a, after, rfl, hbefore, he⟩
        exact ⟨first :: before, a, after, rfl, List.forall_mem_cons.mpr ⟨⟨b, hfirst⟩, hbefore⟩, he⟩
      · rintro ⟨before, a, after, h, hbefore, he⟩
        cases before with
        | nil =>
          obtain ⟨rfl, -⟩ := List.cons.inj h
          cases hfirst.symm.trans he
        | cons a' before =>
          obtain ⟨rfl, rfl⟩ := List.cons.inj h
          exact ⟨before, a, after, rfl, (List.forall_mem_cons.mp hbefore).2, he⟩

/-- A pass without a fault has a result. -/
theorem exists_mapM_eq_ok {f : α → Except ε β} {l : List α} (h : ∀ a ∈ l, ∃ b, f a = .ok b) :
    ∃ bs, l.mapM f = .ok bs := by
  cases hl : l.mapM f with
  | ok bs => exact ⟨bs, rfl⟩
  | error e =>
    obtain ⟨before, a, after, rfl, -, he⟩ := mapM_eq_error_iff.mp hl
    obtain ⟨b, hb⟩ := h a (by simp)
    cases hb.symm.trans he

/-- Computations that come to the same go on to the same, where `f` is what counts of a fault. -/
theorem mapError_bind_congr {f : ε → ε'} {x x' : Except ε α} {k k' : α → Except ε β}
    (h : x'.mapError f = x.mapError f) (hk : ∀ a, (k' a).mapError f = (k a).mapError f) :
    (x'.bind k').mapError f = (x.bind k).mapError f := by
  cases x with
  | error e =>
    cases x' with
    | error e' => exact congrArg Except.error (Except.error.inj h)
    | ok a => cases h
  | ok a =>
    cases x' with
    | error e' => cases h
    | ok a' =>
      obtain rfl : a' = a := Except.ok.inj h
      exact hk a'

/-- Items that a pass relates are counted alike. -/
theorem countP_eq_of_forall₂ {r : α → β → Prop} {p : α → Bool} {q : β → Bool}
    (h : ∀ a b, r a b → p a = q b) {l : List α} {bs : List β} (hl : List.Forall₂ r l bs) :
    l.countP p = bs.countP q := by
  induction hl with
  | nil => rfl
  | cons hab _ ih => rw [List.countP_cons, List.countP_cons, ih, h _ _ hab]

/-- What holds of every result of a step holds of all results of a pass. -/
theorem forall_right_of_forall₂ {r : α → β → Prop} {p : β → Prop} (h : ∀ a b, r a b → p b)
    {l : List α} {bs : List β} (hl : List.Forall₂ r l bs) : ∀ b ∈ bs, p b := by
  induction hl with
  | nil => simp
  | cons hab _ ih => exact List.forall_mem_cons.mpr ⟨h _ _ hab, ih⟩

/-- What holds of an item where something holds of its result holds of all items where that holds of
all results. -/
theorem forall_iff_of_forall₂ {r : α → β → Prop} {p : α → Prop} {q : β → Prop}
    (h : ∀ a b, r a b → (p a ↔ q b)) {l : List α} {bs : List β} (hl : List.Forall₂ r l bs) :
    (∀ a ∈ l, p a) ↔ ∀ b ∈ bs, q b := by
  induction hl with
  | nil => simp
  | cons hab _ ih => rw [List.forall_mem_cons, List.forall_mem_cons, h _ _ hab, ih]

/-- An item of a pass has its result in its place. -/
theorem exists_getElem?_of_forall₂ {r : α → β → Prop} {before after : List α} {a : α}
    {bs : List β} (h : List.Forall₂ r (before ++ a :: after) bs) :
    ∃ b, bs[before.length]? = some b ∧ r a b := by
  induction before generalizing bs with
  | nil =>
    cases h with
    | cons hab _ => exact ⟨_, rfl, hab⟩
  | cons first before ih =>
    cases h with
    | cons _ hrest =>
      obtain ⟨b, hb, hab⟩ := ih hrest
      exact ⟨b, by simpa using hb, hab⟩

end Marginalia
