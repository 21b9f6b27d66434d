import Marginalia.Proofs.Json.Writer
import Marginalia.Proofs.Render.Cause
import Marginalia.Proofs.Value.Reach

/-!
# Which dictionaries have a text

The formats go through a dictionary in different ways, and they fail on different dictionaries, but
neither the data format nor JSON leaves anything out. Since the data format stands in for the
others, a dictionary has a text exactly when everything that it reaches can be spelled, or when it
is wanted in YAML and the library that writes YAML has a text for it.

## Main definitions

* `Library.Alike`: libraries that no rendering tells apart

## Main results

* `Content.result_render`: what a rendering depends on
* `Data.succeeds_render_iff`: which dictionaries have a text in the data format
* `Renderer.speaks_of_dump`: JSON and the data format leave out nothing that cannot be spelled
* `Content.result_render_table`: the text of a dictionary
* `Content.succeeds_render_table_iff`: which dictionaries have a text
-/

namespace Marginalia

open Value (succeeds succeeds_map)

/-! ## The library -/

namespace Library

/-- Libraries that no rendering tells apart: one is available if the other one is, and they make the
same of every dictionary. -/
structure Alike (lib lib' : Library) : Prop where
  available : lib.available = lib'.available
  dumper : lib.dumper = lib'.dumper

variable {lib lib' lib'' : Library}

theorem Alike.refl (lib : Library) : lib.Alike lib := ⟨rfl, rfl⟩

theorem Alike.symm (h : lib.Alike lib') : lib'.Alike lib := ⟨h.available.symm, h.dumper.symm⟩

theorem Alike.trans (h : lib.Alike lib') (h' : lib'.Alike lib'') : lib.Alike lib'' :=
  ⟨h.available.trans h'.available, h.dumper.trans h'.dumper⟩

/-- A look-up leaves no trace in what is rendered. -/
theorem alike_find (lib : Library) : lib.find.Alike lib := ⟨by simp [available, find], rfl⟩

end Library

namespace Renderer

variable {lib lib' : Library}

theorem fst_select (h : lib.available = lib'.available) (format : Option Text) :
    (select lib format).1 = (select lib' format).1 := by
  unfold select
  dsimp only
  rw [h]
  split
  · split <;> rfl
  · split <;> rfl

theorem alike_select (lib : Library) (format : Option Text) :
    (select lib format).2.Alike lib := by
  unfold select
  dsimp only
  split
  · split <;> exact lib.alike_find
  · split <;> exact .refl lib

theorem fst_render (r : Renderer) (h : lib.Alike lib') (σ : Store) (entries : Entries) :
    (r.render lib σ entries).1 = (r.render lib' σ entries).1 := by
  cases r with
  | yaml => rw [render, render, h.available, h.dumper]
  | _ => rfl

theorem alike_render (r : Renderer) (lib : Library) (σ : Store) (entries : Entries) :
    (r.render lib σ entries).2.Alike lib := by
  cases r with
  | yaml => exact lib.alike_find
  | _ => exact .refl lib

theorem dump_congr (r : Renderer) (h : lib.dumper = lib'.dumper) (σ : Store) (entries : Entries) :
    r.dump lib σ entries = r.dump lib' σ entries := by
  cases r with
  | yaml => rw [dump, dump, h]
  | _ => rfl

end Renderer

namespace Content

variable {lib lib' : Library}

/-- **What a rendering depends on**: of the library only whether it is available and what it makes
of a dictionary. -/
theorem result_render (h : lib.Alike lib') (σ : Store) (format : Option Text)
    (content : Content) : (content.render lib σ format).result =
      (content.render lib' σ format).result := by
  cases content with
  | message s => rfl
  | table entries =>
    have hlib : (Renderer.select lib format).2.Alike (Renderer.select lib' format).2 :=
      ((Renderer.alike_select lib format).trans h).trans (Renderer.alike_select lib' format).symm
    rw [render_table, render_table, Renderer.result_present, Renderer.result_present,
      Renderer.fst_select h.available, Renderer.fst_render _ hlib]

theorem alike_render (lib : Library) (σ : Store) (format : Option Text) (content : Content) :
    (content.render lib σ format).library.Alike lib := by
  cases content with
  | message s => exact .refl lib
  | table entries =>
    rw [render_table, Renderer.library_present]
    exact (Renderer.alike_render _ _ σ entries).trans (Renderer.alike_select lib format)

end Content

/-! ## Texts -/

variable {σ : Store} {entries : Entries} {lib : Library} {format : Option Text}

/-- **Which dictionaries have a text in the data format**: those that reach nothing that cannot be
spelled. -/
theorem Data.succeeds_render_iff : succeeds (Data.render σ entries) = true ↔
    ∀ w : Value, σ.Reaches (.dict entries) w → w.speaks = true := by
  rw [Data.render, succeeds_map, Value.shape_ok_iff, Store.speakable_expand_iff]

theorem Json.speaks_of_render (h : succeeds (Json.render σ entries) = true) {w : Value}
    (hw : σ.Reaches (.dict entries) w) : w.speaks = true :=
  (σ.speakable_expand_iff _).mp (Json.speakable_of_write h) w hw

namespace Renderer

/-- **JSON and the data format leave out nothing that cannot be spelled.** -/
theorem speaks_of_dump {r : Renderer} (hr : r ≠ .yaml)
    (h : succeeds (r.dump lib σ entries) = true) {w : Value}
    (hw : σ.Reaches (.dict entries) w) : w.speaks = true := by
  cases r with
  | yaml => exact absurd rfl hr
  | json => exact Json.speaks_of_render h hw
  | data => exact Data.succeeds_render_iff.mp h w hw

/-- What is chosen for a dictionary is at hand. -/
theorem fst_render_select (lib : Library) (σ : Store) (format : Option Text) (entries : Entries) :
    ((select lib format).1.render (select lib format).2 σ entries).1 =
      (select lib format).1.dump lib σ entries := by
  have hlib := alike_select lib format
  rw [← dump_congr _ hlib.dumper]
  exact fst_render_of_available
    (fun hyaml => hlib.available.trans ((select_eq_yaml_iff lib format).mp hyaml).2) σ entries

end Renderer

namespace Content

/-- **The text of a dictionary** is that in the format chosen for it, and that in the data format
where there is no such text. -/
theorem result_render_table :
    (Content.render lib σ format (.table entries)).result =
      match (Renderer.select lib format).1.dump lib σ entries with
      | .ok s => .ok s
      | .error _ => Data.render σ entries := by
  cases h : (Renderer.select lib format).1.dump lib σ entries with
  | ok s => simp only [render_table, Renderer.result_present, Renderer.fst_render_select, h]
  | error e => simp only [render_table, Renderer.result_present, Renderer.fst_render_select, h]

/-- **Which dictionaries have a text**: those that reach nothing that cannot be spelled, whatever
the format, and in YAML those that the library has a text for. -/
theorem succeeds_render_table_iff :
    succeeds (Content.render lib σ format (.table entries)).result = true ↔
      (∃ s, (Renderer.select lib format).1 = .yaml ∧ lib.dumper.dump σ entries = .ok s) ∨
        ∀ w : Value, σ.Reaches (.dict entries) w → w.speaks = true := by
  rw [result_render_table]
  by_cases hyaml : (Renderer.select lib format).1 = .yaml
  · rw [hyaml, Renderer.dump]
    cases lib.dumper.dump σ entries with
    | error e => simpa [Except.mapError] using Data.succeeds_render_iff
    | ok s => simp [Except.mapError]
  · have hdump : succeeds ((Renderer.select lib format).1.dump lib σ entries) = true →
        ∀ w : Value, σ.Reaches (.dict entries) w → w.speaks = true :=
      fun h _ hw => Renderer.speaks_of_dump hyaml h hw
    simp only [hyaml, false_and, exists_false, false_or]
    generalize (Renderer.select lib format).1.dump lib σ entries = x at hdump ⊢
    cases x with
    | error e => exact Data.succeeds_render_iff
    | ok s => exact ⟨fun _ => hdump rfl, fun _ => rfl⟩

end Content

end Marginalia
