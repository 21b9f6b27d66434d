import Marginalia.Json.Writer
import Marginalia.Proofs.Value.Parts

/-!
# What has a JSON text

Writing JSON goes through all parts of a value, so that a value with a JSON text has nothing in it
that cannot be spelled.

## Main results

* `Json.succeeds_writeAll`, `Json.succeeds_writeEntries`: containers are written member by member
* `Json.speakable_of_write`: a value with a JSON text is speakable
-/

namespace Marginalia

namespace Json

open Value (succeeds)

theorem succeeds_writeAll {depth : Nat} {items : List Value} :
    succeeds (writeAll depth items) = true ↔ ∀ v ∈ items, succeeds (write depth v) = true := by
  induction items with
  | nil => simp [writeAll]
  | cons v vs ih =>
    rw [writeAll, List.forall_mem_cons, ← ih]
    cases write depth v <;> simp

theorem succeeds_writeEntries {depth : Nat} {entries : Entries} :
    succeeds (writeEntries depth entries) = true ↔
      ∀ e ∈ entries, succeeds (keyText e.1) = true ∧ succeeds (write depth e.2) = true := by
  induction entries with
  | nil => simp [writeEntries]
  | cons e rest ih =>
    obtain ⟨k, v⟩ := e
    rw [writeEntries, List.forall_mem_cons, ← ih]
    cases keyText k
    · simp
    · cases write depth v <;> simp

theorem speakable_int {i : Int} (h : succeeds (spellInt i) = true) :
    (Value.int i).speakable = true := by
  rwa [← Value.shape_ok_iff Value.ellipsis, Value.shape, Value.succeeds_map]

/-- What JSON has as a key can be spelled. -/
theorem speakable_of_keyText {v : Value} (h : succeeds (keyText v) = true) :
    v.speakable = true := by
  cases v with
  | int i => exact speakable_int h
  | none | bool _ | float _ | text _ => rfl
  | _ => cases h

/-- **A value with a JSON text is speakable.** -/
theorem speakable_of_write {depth : Nat} {v : Value} (h : succeeds (write depth v) = true) :
    v.speakable = true := by
  induction v using Value.induction generalizing depth with
  | h v ih =>
    cases v with
    | int i => exact speakable_int h
    | foreign o =>
      rw [write, Value.succeeds_map] at h
      rwa [← Value.shape_ok_iff Value.ellipsis, Value.shape, Value.succeeds_map]
    | list items =>
      rw [write, Value.succeeds_map, succeeds_writeAll] at h
      exact Value.speakableAll_iff.mpr fun v hv => ih v hv (h v hv)
    | tuple items =>
      rw [write, Value.succeeds_map, succeeds_writeAll] at h
      exact Value.speakableAll_iff.mpr fun v hv => ih v hv (h v hv)
    | set items =>
      rwa [write, Value.succeeds_map, Value.literal, Value.succeeds_map, Value.shape_ok_iff] at h
    | dict entries =>
      rw [write, Value.succeeds_map, succeeds_writeEntries] at h
      rw [Value.forall_mem_members_dict] at ih
      exact Value.speakableEntries_iff.mpr fun e he =>
        ⟨speakable_of_keyText (h e he).1, (ih e he).2 (h e he).2⟩
    | shared kind address => cases h
    | none | bool _ | float _ | text _ | bytes _ => rfl

end Json

end Marginalia
