import Marginalia.Program.Delivery
import Marginalia.Proofs.Files.Tree
import Marginalia.Proofs.Render.Choice

/-!
# What becomes of debug output

What cannot be rendered and what the file system refuses is reported and goes no further. A program
is stopped only by a path that holds the character of code point zero, by an error stream that is
closed or missing and by a value that is no path, and the latter does not depend on the outlets.

## Main definitions

* `Destination.IsPlain`: the path of a destination holds no character of code point zero
* `Outlets.Hinders`: the faults that keep a text from a destination and escape
* `Outlets.Alike`: outlets that no delivery tells apart

## Main results

* `Outlets.exists_result_deliver`: no fault escapes from a delivery to a plain destination
* `Outlets.alike_deliverTo`: what no delivery changes
* `Outlets.result_deliverTo`: the faults that escape from all outlets
-/

namespace Marginalia

open FileTree

/-- The path of a destination, if there is one, holds no character of code point zero. -/
def Destination.IsPlain (d : Destination) : Prop := ∀ path ∈ d.path?, hasNull path = false

/-! ## Deliveries -/

namespace Outlets

variable {o o' : Outlets}

/-- Outlets that no delivery tells apart: relative paths start from the same directory, the error
streams are alike, and content is rendered alike. -/
structure Alike (o o' : Outlets) : Prop where
  home : o.files.home = o'.files.home
  full : o.full = o'.full
  library : o.library.Alike o'.library

theorem Alike.refl (o : Outlets) : o.Alike o := ⟨rfl, rfl, .refl _⟩

theorem Alike.symm (h : o.Alike o') : o'.Alike o :=
  ⟨h.home.symm, h.full.symm, h.library.symm⟩

theorem Alike.trans {o'' : Outlets} (h : o.Alike o') (h' : o'.Alike o'') : o.Alike o'' :=
  ⟨h.home.trans h'.home, h.full.trans h'.full, h.library.trans h'.library⟩

theorem isEmpty_path? {d : Destination} {path : Text} (h : d.path? = some path) :
    path.isEmpty = false := by
  unfold Destination.path? at h
  split at h
  · rw [← Option.some.inj h]
    rfl
  · cases h

theorem alike_write (d : Destination) (s : Text) : (o.write d s).1.Alike o := by
  unfold write writeStream
  split
  · exact ⟨FileTree.home_deliver _ _ _ _, rfl, .refl _⟩
  · split <;> exact ⟨rfl, rfl, .refl _⟩

/-- The faults that keep a text from a destination and escape: that of a path which holds the
character of code point zero, and what an error stream raises that is not open. -/
inductive Hinders (o : Outlets) (d : Destination) : FileFault → Prop
  /-- The path, or that of the directory it starts from, holds the character. -/
  | nullByte (path : d.path?.isSome = true) (hidden : ¬ (o.files.home.IsPlain ∧ d.IsPlain)) :
    Hinders o d .nullByte
  /-- The error stream raises this. -/
  | stream {e : Failure} (path : d.path? = none) (raised : o.full = .raises e) :
    Hinders o d (.stream e)

/-- Nothing hinders a text on its way to a plain destination, if the error stream is open where it
is the destination. -/
theorem not_hinders {d : Destination} (hh : o.files.home.IsPlain) (hd : d.IsPlain)
    (ho : d.path? = none → o.full.IsOpen) (e : FileFault) : ¬ o.Hinders d e := by
  rintro (⟨-, h⟩ | ⟨hp, hr⟩)
  · exact h ⟨hh, hd⟩
  · exact ho hp _ hr

theorem Hinders.congr {d d' : Destination} {e : FileFault} (h : o.Hinders d e)
    (hpath : d.path? = d'.path?) : o.Hinders d' e := by
  cases h with
  | nullByte hp hn =>
    refine .nullByte (hpath ▸ hp) fun ⟨hh, hd⟩ => hn ⟨hh, ?_⟩
    rwa [Destination.IsPlain, hpath]
  | stream hp hr => exact .stream (hpath ▸ hp) hr

theorem hinders_of_write {d : Destination} {s : Text} {e : FileFault}
    (h : (o.write d s).2 = .error e) : (∃ f, e = .system f) ∨ o.Hinders d e := by
  unfold write writeStream at h
  split at h
  · next path hp =>
      obtain hsystem | ⟨rfl, hn⟩ := onlyHindered_deliver _ (isEmpty_path? hp) s e h
      · exact Or.inl hsystem
      · exact Or.inr (.nullByte (by simp [hp]) fun ⟨hh, hd⟩ => hn ⟨hh, hd path hp⟩)
  · next hp =>
      split at h
      · cases h
      · exact Or.inl ⟨_, (Except.error.inj h).symm⟩
      · next hr =>
          obtain rfl := Except.error.inj h
          exact Or.inr (.stream hp hr)

theorem alike_send (notices : List Notice) (d : Destination) (s : Text) :
    (o.send notices d s).outlets.Alike o := by
  have hw := alike_write (o := o) d s
  unfold send
  generalize o.write d s = x at hw ⊢
  obtain ⟨o', e | u⟩ := x
  · cases e <;> exact hw
  · exact hw

theorem result_send {notices : List Notice} {d : Destination} {s : Text} {e : FileFault}
    (h : (o.send notices d s).result = .error e) : o.Hinders d e := by
  have hw := @hinders_of_write o d s
  unfold send at h
  generalize o.write d s = x at hw h
  obtain ⟨o', e' | u⟩ := x
  · -- a refusal of the file system is reported, so it does not escape
    rcases hw rfl with ⟨f, rfl⟩ | hhinders
    · cases h
    · have he : e' = e := by cases hhinders <;> exact Except.error.inj h
      exact he ▸ hhinders
  · cases h

theorem alike_deliver (σ : Store) (d : Destination) (format : Option Text) (content : Content) :
    (o.deliver σ d format content).outlets.Alike o := by
  have hlib : Alike { o with library := (content.render o.library σ format).library } o :=
    ⟨rfl, rfl, Content.alike_render _ _ _ _⟩
  unfold deliver
  dsimp only
  split
  · exact hlib
  · exact (alike_send _ _ _).trans hlib

theorem result_deliver {σ : Store} {d : Destination} {format : Option Text} {content : Content}
    {e : FileFault} (h : (o.deliver σ d format content).result = .error e) : o.Hinders d e := by
  unfold deliver at h
  dsimp only at h
  split at h
  · cases h
  · -- what hinders a text does not depend on the library
    cases result_send (o := { o with library := (content.render o.library σ format).library }) h with
    | nullByte hp hn => exact .nullByte hp hn
    | stream hp hr => exact .stream hp hr

/-- **A text reaches a plain destination, or its loss is reported.** -/
theorem exists_result_send {d : Destination} (hh : o.files.home.IsPlain) (hd : d.IsPlain)
    (ho : o.full.IsOpen) (notices : List Notice) (s : Text) :
    ∃ written, (o.send notices d s).result = .ok written := by
  cases h : (o.send notices d s).result with
  | ok written => exact ⟨written, rfl⟩
  | error e => exact absurd (result_send h) (not_hinders hh hd (fun _ => ho) e)

/-- **No fault escapes from a delivery to a plain destination.** -/
theorem exists_result_deliver {d : Destination} (hh : o.files.home.IsPlain) (hd : d.IsPlain)
    (ho : o.full.IsOpen) (σ : Store) (format : Option Text) (content : Content) :
    ∃ written, (o.deliver σ d format content).result = .ok written := by
  cases h : (o.deliver σ d format content).result with
  | ok written => exact ⟨written, rfl⟩
  | error e => exact absurd (result_deliver h) (not_hinders hh hd (fun _ => ho) e)

/-- **What no delivery changes**, whatever its destination is. -/
theorem alike_deliverTo (σ : Store) (destination format : Value) (content : Content) :
    (o.deliverTo σ destination format content).outlets.Alike o := by
  unfold deliverTo
  split
  · exact .refl o
  · exact alike_deliver _ _ _ _
  · unfold deliverNowhere
    dsimp only
    split <;> exact ⟨rfl, rfl, Content.alike_render _ _ _ _⟩

/-- **The faults that escape from all outlets** with an open error stream: all but that of a path
which holds the character of code point zero. -/
theorem result_deliverTo (h : o.Alike o') (ho : o.full.IsOpen) {σ : Store} {destination format : Value}
    {content : Content} {e : FileFault}
    (he : (o.deliverTo σ destination format content).result = .error e) :
    e = .nullByte ∨ (o'.deliverTo σ destination format content).result = .error e := by
  unfold deliverTo at he ⊢
  split at he
  · cases he
  · cases result_deliver he with
    | nullByte _ _ => exact Or.inl rfl
    | stream _ hr => exact absurd hr (ho _)
  · next f className _ _ =>
      have hrender := Content.result_render h.library σ f content
      unfold deliverNowhere at he ⊢
      dsimp only at he ⊢
      rw [hrender] at he
      split at he
      · cases he
      · exact Or.inr he

end Outlets

end Marginalia
