import Marginalia.Proofs.Fault
import Marginalia.Render.Format

/-!
# Why a dictionary has no text

Each format fails on dictionaries for causes of its own. That its library is missing is a cause for
YAML only, and it comes before the dictionary is looked at: once the library is at hand, what is
left are the causes that lie in the dictionary, and for YAML whatever the library raises.

## Main definitions

* `Renderer.blames`: the causes that a format fails for
* `Renderer.dump`: a dictionary in a format whose library is at hand
* `Renderer.present`: a dictionary in a format, or in the data format where that fails

## Main results

* `Renderer.failsFor_dump`: a format fails for its own causes only
* `Renderer.fst_render_of_available`: a format whose library is at hand
* `Renderer.result_present`: the data format stands in where another one fails
* `Content.render_table`: a rendering chooses a format and then puts the dictionary into it
-/

namespace Marginalia

/-- The causes that a format fails for once its library is at hand. -/
def Renderer.blames : Renderer → RenderFault → Bool
  | .data, .description _ => true
  | .data, .tooManyDigits => true
  | .json, .description _ => true
  | .json, .tooManyDigits => true
  | .json, .cycle => true
  | .json, .keyClass _ => true
  | .yaml, .library _ => true
  | _, _ => false

/-- A missing library is no cause in a dictionary. -/
@[simp] theorem Renderer.blames_noLibrary (r : Renderer) : r.blames .noLibrary = false := by
  cases r <;> rfl

/-! ## Spelling -/

theorem failsFor_spellInt (i : Int) : FailsFor (· = .tooManyDigits) (spellInt i) := by
  unfold spellInt
  split
  · exact failsFor_error rfl
  · exact failsFor_ok _ _

theorem Foreign.failsFor_spell (o : Foreign) :
    FailsFor (fun e => ∃ message, e = .description message) o.spell := by
  unfold spell
  split
  · exact failsFor_ok _ _
  · exact failsFor_error ⟨_, rfl⟩

namespace Value

theorem failsFor_spellInt_data (i : Int) : FailsFor (Renderer.data.blames ·) (spellInt i) :=
  (failsFor_spellInt i).imp (by rintro _ rfl; rfl)

theorem failsFor_spell_data (o : Foreign) : FailsFor (Renderer.data.blames ·) o.spell :=
  o.failsFor_spell.imp (by rintro _ ⟨_, rfl⟩; rfl)

variable (mark : Kind → Nat → Text)

mutual

/-- **Why a value cannot be spelled**: an integer is too long, or an object cannot be described. -/
theorem failsFor_shape : ∀ v : Value, FailsFor (Renderer.data.blames ·) (shape mark v)
  | none => failsFor_ok _ _
  | bool _ => failsFor_ok _ _
  | int i => (failsFor_spellInt_data i).map _
  | float _ => failsFor_ok _ _
  | text _ => failsFor_ok _ _
  | bytes _ => failsFor_ok _ _
  | foreign o => (failsFor_spell_data o).map _
  | list items => (failsFor_shapes items).map _
  | tuple items => (failsFor_shapes items).map _
  | set items => by
    rw [shape]
    split
    · exact failsFor_ok _ _
    · exact (failsFor_shapes items).map _
  | dict entries => (failsFor_rows entries).map _
  | shared _ _ => failsFor_ok _ _

theorem failsFor_shapes : ∀ vs : List Value, FailsFor (Renderer.data.blames ·) (shapes mark vs)
  | [] => failsFor_ok _ _
  | v :: vs => by
    rw [shapes]
    cases hv : shape mark v with
    | error e => exact failsFor_error (failsFor_shape v e hv)
    | ok x => exact (failsFor_shapes vs).map _

theorem failsFor_rows : ∀ es : Entries, FailsFor (Renderer.data.blames ·) (rows mark es)
  | [] => failsFor_ok _ _
  | (k, v) :: rest => by
    rw [rows]
    cases hk : shape mark k with
    | error e => exact failsFor_error (failsFor_shape k e hk)
    | ok key =>
      cases hv : shape mark v with
      | error e => exact failsFor_error (failsFor_shape v e hv)
      | ok x => exact (failsFor_rows rest).map _

end

end Value

/-! ## JSON -/

namespace Json

theorem blames_of_data {e : RenderFault} (h : Renderer.data.blames e = true) :
    Renderer.json.blames e = true := by
  cases e <;> first | rfl | cases h

theorem failsFor_keyText (v : Value) : FailsFor (Renderer.json.blames ·) (keyText v) := by
  unfold keyText
  split
  case h_5 i => exact (Value.failsFor_spellInt_data i).imp fun _ => blames_of_data
  case h_6 => exact failsFor_error rfl
  all_goals exact failsFor_ok _ _

mutual

/-- **Why a value has no JSON text**: it cannot be spelled, a key of it is of another class, or it
holds itself. -/
theorem failsFor_write : ∀ (depth : Nat) (v : Value),
    FailsFor (Renderer.json.blames ·) (write depth v)
  | _, .none => failsFor_ok _ _
  | _, .bool _ => failsFor_ok _ _
  | _, .int i => (Value.failsFor_spellInt_data i).imp fun _ => blames_of_data
  | _, .float _ => failsFor_ok _ _
  | _, .text _ => failsFor_ok _ _
  | depth, .list items => (failsFor_writeAll (depth + 1) items).map _
  | depth, .tuple items => (failsFor_writeAll (depth + 1) items).map _
  | depth, .dict entries => (failsFor_writeEntries (depth + 1) entries).map _
  | _, .shared _ _ => failsFor_error rfl
  | _, .bytes _ => failsFor_ok _ _
  | _, .set items =>
    (((Value.failsFor_shape _ (.set items)).map _).imp fun _ => blames_of_data).map _
  | _, .foreign o => ((Value.failsFor_spell_data o).imp fun _ => blames_of_data).map _

theorem failsFor_writeAll : ∀ (depth : Nat) (vs : List Value),
    FailsFor (Renderer.json.blames ·) (writeAll depth vs)
  | _, [] => failsFor_ok _ _
  | depth, v :: vs => by
    rw [writeAll]
    cases hv : write depth v with
    | error e => exact failsFor_error (failsFor_write depth v e hv)
    | ok s => exact (failsFor_writeAll depth vs).map _

theorem failsFor_writeEntries : ∀ (depth : Nat) (es : Entries),
    FailsFor (Renderer.json.blames ·) (writeEntries depth es)
  | _, [] => failsFor_ok _ _
  | depth, (k, v) :: rest => by
    rw [writeEntries]
    cases hk : keyText k with
    | error e => exact failsFor_error (failsFor_keyText k e hk)
    | ok key =>
      cases hv : write depth v with
      | error e => exact failsFor_error (failsFor_write depth v e hv)
      | ok s => exact (failsFor_writeEntries depth rest).map _

end

end Json

/-! ## Formats -/

namespace Renderer

variable {lib : Library}

/-- A dictionary in a format whose library is at hand. -/
def dump (r : Renderer) (lib : Library) (σ : Store) (entries : Entries) :
    Except RenderFault Text :=
  match r with
  | .data => Data.render σ entries
  | .json => Json.render σ entries
  | .yaml => (lib.dumper.dump σ entries).mapError .library

/-- **A format fails for its own causes only.** -/
theorem failsFor_dump (r : Renderer) (lib : Library) (σ : Store) (entries : Entries) :
    FailsFor (r.blames ·) (r.dump lib σ entries) := by
  cases r with
  | data => exact (Value.failsFor_shape _ _).map _
  | json => exact Json.failsFor_write 0 _
  | yaml => exact failsFor_mapError fun _ => rfl

theorem dump_ne_noLibrary (r : Renderer) (lib : Library) (σ : Store) (entries : Entries) :
    r.dump lib σ entries ≠ .error .noLibrary := fun h =>
  absurd (r.failsFor_dump lib σ entries _ h) (by simp)

/-- **A format whose library is at hand** does not fail for want of it. -/
theorem fst_render_of_available {r : Renderer} (h : r = .yaml → lib.available = true) (σ : Store)
    (entries : Entries) : (r.render lib σ entries).1 = r.dump lib σ entries := by
  cases r with
  | yaml => exact if_pos (h rfl)
  | _ => rfl

/-- A dictionary in the format that was chosen for it, or in the data format where that fails. -/
def present (r : Renderer) (lib : Library) (σ : Store) (entries : Entries) : Rendering :=
  match r.render lib σ entries with
  | (.ok s, lib) => ⟨.ok s, lib, []⟩
  | (.error e, lib) =>
    if r = .data then ⟨.error e, lib, []⟩ else ⟨Data.render σ entries, lib, [.fallback r]⟩

/-- **The data format stands in where another one fails**, for whatever cause. -/
theorem result_present (r : Renderer) (lib : Library) (σ : Store) (entries : Entries) :
    (r.present lib σ entries).result =
      match (r.render lib σ entries).1 with
      | .ok s => .ok s
      | .error _ => Data.render σ entries := by
  unfold present
  cases r with
  | data =>
    dsimp only [render]
    cases Data.render σ entries <;> rfl
  | json =>
    dsimp only [render]
    cases Json.render σ entries <;> rfl
  | yaml =>
    generalize yaml.render lib σ entries = x
    obtain ⟨e | s, lib'⟩ := x <;> rfl

theorem library_present (r : Renderer) (lib : Library) (σ : Store) (entries : Entries) :
    (r.present lib σ entries).library = (r.render lib σ entries).2 := by
  unfold present
  split
  · next h => rw [h]
  · next h =>
    rw [h]
    split <;> rfl

end Renderer

/-- The text of a dictionary: a format is chosen for it, and then it is put into that format. -/
theorem Content.render_table (lib : Library) (σ : Store) (format : Option Text)
    (entries : Entries) : (Content.table entries).render lib σ format =
      (Renderer.select lib format).1.present (Renderer.select lib format).2 σ entries := by
  unfold Renderer.present
  rw [Content.render]
  generalize Renderer.select lib format = chosen
  obtain ⟨r, lib'⟩ := chosen
  dsimp only
  generalize r.render lib' σ entries = x
  obtain ⟨e | s, lib''⟩ := x <;> rfl

end Marginalia
