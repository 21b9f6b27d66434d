import Marginalia.Proofs.Text.LowerCase
import Marginalia.Settings.Resolve

/-!
# Names of formats

Whatever is given as the name of a format, what comes of it is a text in lower case that is not
empty. Values that count as false are as good as no name, and the literals of all others say
something.

## Main results

* `Value.literal_ne_nil`: no literal is empty
* `Store.formatName_of_plain`: the name of a format is in lower case and not empty
-/

namespace Marginalia

/-! ## Literals of numbers -/

theorem DecimalForm.positional_ne_nil (ds : Text) (point : Int) : positional ds point ≠ [] := by
  unfold positional
  split
  · exact List.cons_ne_nil _ _
  · split <;> simp

theorem DecimalForm.write_ne_nil (form : DecimalForm) {ds : Text} (h : ds ≠ []) (point : Int) :
    form.write ds point ≠ [] := by
  unfold write
  split
  · exact positional_ne_nil ds point
  · cases ds with
    | nil => exact absurd rfl h
    | cons d rest => exact List.cons_ne_nil _ _

theorem Binary64.text_ne_nil (x : Binary64) : x.text ≠ [] := by
  have hmagnitude : ∀ m q, magnitudeText m q ≠ [] := by
    intro m q
    unfold magnitudeText
    split
    · exact List.cons_ne_nil _ _
    · exact DecimalForm.write_ne_nil _ (Digits.decimal_ne_nil _) _
  unfold text
  split
  · decide
  · decide
  · decide
  · exact hmagnitude _ _
  · exact List.cons_ne_nil _ _

theorem Digits.decimalInt_ne_nil (i : Int) : decimalInt i ≠ [] := by
  cases i with
  | ofNat n => exact decimal_ne_nil n
  | negSucc n => exact List.cons_ne_nil _ _

/-! ## Literals -/

/-- **No literal is empty**, but for those of foreign objects, which may be spelled with nothing. -/
theorem Value.literal_ne_nil {v : Value} {s : Text} (h : v.plain = true) (hs : v.literal = .ok s) :
    s ≠ [] := by
  obtain ⟨x, hx, rfl⟩ := map_eq_ok_iff.mp hs
  cases v with
  | none =>
    obtain rfl := Except.ok.inj hx
    decide
  | bool b =>
    obtain rfl := Except.ok.inj hx
    cases b <;> decide
  | int i =>
    obtain ⟨t, ht, rfl⟩ := map_eq_ok_iff.mp hx
    unfold spellInt at ht
    split at ht
    · cases ht
    · obtain rfl := Except.ok.inj ht
      exact Digits.decimalInt_ne_nil i
  | float y =>
    obtain rfl := Except.ok.inj hx
    exact y.text_ne_nil
  | text t | bytes bs =>
    -- the quotes are there whatever stands between them
    obtain rfl := Except.ok.inj hx
    exact List.cons_ne_nil _ _
  | list items | tuple items | dict entries =>
    obtain ⟨xs, -, rfl⟩ := map_eq_ok_iff.mp hx
    exact List.cons_ne_nil _ _
  | set items =>
    rw [shape] at hx
    split at hx
    · obtain rfl := Except.ok.inj hx
      decide
    · obtain ⟨xs, -, rfl⟩ := map_eq_ok_iff.mp hx
      exact List.cons_ne_nil _ _
  | foreign _ | shared _ _ => cases h

/-! ## Names -/

namespace Store

variable {σ : Store} {v : Value} {s other : Text}

/-- What counts as true is no empty text. -/
theorem textOf_ne_nil (h : v.plain = true) (htrue : σ.truthy v = true)
    (hs : σ.textOf v = .ok s) : s ≠ [] := by
  unfold textOf at hs
  split at hs
  · next t hview =>
    obtain rfl := Except.ok.inj hs
    rintro rfl
    rw [truthy, hview] at htrue
    cases htrue
  · -- what is no text is spelled, and spelling says something
    rw [σ.expand_plain h] at hs
    split at hs
    · next t hliteral =>
      obtain rfl := Except.ok.inj hs
      exact Value.literal_ne_nil h hliteral
    · cases hs

/-- **The name of a format** is in lower case and not empty, if the name used otherwise is. -/
theorem formatName_of_plain (h : v.plain = true) (hother : other ≠ [] ∧ other.lower = other)
    {format : Text} (hformat : σ.formatName v other = .ok format) :
    format ≠ [] ∧ format.lower = format := by
  unfold formatName at hformat
  split at hformat
  · next htrue =>
    obtain ⟨s, hs, rfl⟩ := Value.map_eq_ok_iff.mp hformat
    exact ⟨Text.lower_ne_nil (textOf_ne_nil h htrue hs), Text.lower_lower s⟩
  · obtain rfl := Except.ok.inj hformat
    exact hother

end Store

/-- The format used where none is named has such a name. -/
theorem lower_defaultFormat : defaultFormat ≠ [] ∧ defaultFormat.lower = defaultFormat :=
  ⟨by decide, by decide +kernel⟩

end Marginalia
