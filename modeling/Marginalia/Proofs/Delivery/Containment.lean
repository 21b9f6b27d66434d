import Marginalia.Proofs.Delivery.Session

/-!
# Faults of debug output

Debug output must not stop the program that asks for it. A call that delivers debug output reports
success or failure, whatever it shows and wherever it sends its text, with two exceptions: the fault
of a path that holds the character of code point zero escapes, and so does what an error stream
raises that has been closed or is missing. Paths and texts hold no lone surrogates here; the fault of
one would escape, too.

## Main definitions

* `Outlets.Takes`: destinations that take a text
* `Request.IsContained`: calls whose faults do not escape

## Main results

* `Outlets.result_deliver_eq_true_iff`: which deliveries succeed
* `Request.result_eq_true_iff`: which calls report success
* `Request.exists_report`: a call reports success or failure, and which faults escape
* `Request.not_exists_report_nullByte`: calls whose faults escape
-/

namespace Marginalia

namespace Outlets

variable {o : Outlets} {d : Destination} {s : Text}

/-- A text can be written to the destination. -/
def Takes (o : Outlets) (d : Destination) (s : Text) : Prop := (o.write d s).2 = .ok ()

instance (o : Outlets) (d : Destination) (s : Text) : Decidable (o.Takes d s) :=
  match h : (o.write d s).2 with
  | .ok () => .isTrue h
  | .error _ => .isFalse (by simp [Takes, h])

theorem write_congr {d' : Destination} (h : d.path? = d'.path?) (s : Text) :
    o.write d s = o.write d' s := by
  rw [write, write, h]

/-- Writing does not depend on the library. -/
theorem write_library (lib : Library) (d : Destination) (s : Text) :
    write { o with library := lib } d s =
      ({ (o.write d s).1 with library := lib }, (o.write d s).2) := by
  unfold write writeStream
  split
  · rfl
  · dsimp only
    split <;> rfl

theorem takes_library (lib : Library) :
    Takes { o with library := lib } d s ↔ o.Takes d s := by
  rw [Takes, write_library, Takes]

theorem result_send_eq_true_iff {notices : List Notice} :
    (o.send notices d s).result = .ok true ↔ o.Takes d s := by
  unfold send Takes
  generalize o.write d s = x
  obtain ⟨o', e | u⟩ := x
  · cases e <;> simp
  · simp

/-- **Which deliveries succeed**: those of content with a text that the destination takes. -/
theorem result_deliver_eq_true_iff {σ : Store} {format : Option Text} {content : Content} :
    (o.deliver σ d format content).result = .ok true ↔
      ∃ s, (content.render o.library σ format).result = .ok s ∧ o.Takes d s := by
  unfold deliver
  dsimp only
  generalize content.render o.library σ format = r
  obtain ⟨e | s, lib, notices⟩ := r
  · simp
  · simp [result_send_eq_true_iff, takes_library]

end Outlets

namespace Request

variable {o : Outlets} {c : Request}

/-- **Which calls report success**: those with a text that the destination takes. -/
theorem result_eq_true_iff (σ : Store) : (c.deliver o σ).result = .ok true ↔
    ∃ s, c.text? o.library σ = some s ∧ o.Takes c.destination s := by
  obtain ⟨d, htarget, hpath⟩ := σ.target_value c.destination
  unfold deliver text? Outlets.deliverTo
  rw [htarget]
  cases σ.format c.format with
  | error className => simp
  | ok f =>
    dsimp only
    rw [Outlets.result_deliver_eq_true_iff]
    unfold Outlets.Takes
    simp only [Outlets.write_congr hpath]
    cases (c.content.render o.library σ f).result <;> simp [Except.toOption]

/-- A call that shows what has no text reports failure. -/
theorem result_of_text?_eq_none {σ : Store} (h : c.text? o.library σ = none) :
    (c.deliver o σ).result = .ok false := by
  obtain ⟨d, htarget, -⟩ := σ.target_value c.destination
  unfold text? at h
  unfold deliver Outlets.deliverTo
  rw [htarget]
  cases hf : σ.format c.format with
  | error className => rfl
  | ok f =>
    rw [hf] at h
    dsimp only at h ⊢
    unfold Outlets.deliver
    cases hr : (c.content.render o.library σ f).result with
    | error e => simp [hr]
    | ok s => simp [hr, Except.toOption] at h

/-- The faults of the call do not escape: the path of its destination does not hold the character
of code point zero, and the error stream is open if it is the destination. -/
structure IsContained (o : Outlets) (c : Request) : Prop where
  plain : c.destination.IsPlain
  stream : c.destination.path? = none → o.full.IsOpen

/-- What escapes from a call is what hinders its text. -/
theorem hinders_of_result {σ : Store} {e : FileFault} (h : (c.deliver o σ).result = .error e) :
    o.Hinders c.destination e := by
  obtain ⟨d, htarget, hpath⟩ := σ.target_value c.destination
  unfold deliver Outlets.deliverTo at h
  rw [htarget] at h
  split at h
  · cases h
  · next f d' _ hd =>
    obtain rfl := Except.ok.inj hd
    exact (Outlets.result_deliver h).congr hpath
  · next hd => cases hd

/-- One warning tells of a failure that is reported, and there are no others. -/
theorem length_warnings (hh : o.files.home.IsProper) (σ : Store) :
    (c.deliver o σ).warnings.length = if (c.deliver o σ).result = .ok false then 1 else 0 := by
  cases c.outcome hh σ with
  | file _ _ _ _ hr hw => simp [hr, hw]
  | stream _ _ _ _ hr hw => simp [hr, hw]
  | lost _ _ _ hw => exact hw

/-- **A call reports success or failure**, whatever it shows and in whatever format: success if what
it shows has a text that the destination takes, and failure with one warning otherwise. From other
calls a fault may escape: that of a path that holds the character of code point zero, or what the
error stream raises. -/
theorem exists_report (hplain : o.files.home.IsPlain) (hproper : o.files.home.IsProper)
    (σ : Store) (c : Request) :
    (IsContained o c → ∃ written, (c.deliver o σ).result = .ok written ∧
      (written = true ↔ ∃ s, c.text? o.library σ = some s ∧ o.Takes c.destination s) ∧
      (c.deliver o σ).warnings.length = if written then 0 else 1) ∧
    ∀ e, (c.deliver o σ).result = .error e →
      e = .nullByte ∧ ¬ c.destination.IsPlain ∨
        c.destination.path? = none ∧ ∃ raised, e = .stream raised ∧ o.full = .raises raised := by
  constructor
  · intro hc
    cases h : (c.deliver o σ).result with
    | error e =>
      exact absurd (hinders_of_result h) (Outlets.not_hinders hplain hc.plain hc.stream e)
    | ok written =>
      have htrue := result_eq_true_iff (o := o) (c := c) σ
      have hwarnings := c.length_warnings hproper σ
      rw [h] at htrue hwarnings
      refine ⟨written, rfl, ?_, ?_⟩
      · simpa using htrue
      · cases written <;> simpa using hwarnings
  · intro e he
    cases hinders_of_result he with
    | nullByte _ hn => exact Or.inl ⟨rfl, fun hd => hn ⟨hplain, hd⟩⟩
    | stream hp hr => exact Or.inr ⟨hp, _, rfl, hr⟩

/-- An object that cannot be described is shown in JSON, and the failure is reported. -/
theorem exists_report_broken :
    let o : Outlets := ⟨⟨["W".toList], [(["W".toList], .directory)]⟩, [], .closed, ⟨false, false⟩⟩
    let broken : Foreign := ⟨.made 0, "object".toList, .fails "boom".toList, none⟩
    let c : Request := .emitStructured (some "d/a".toList) (.text "json".toList)
      (.table [(.text "b".toList, .list [.foreign broken])])
    o.files.home.IsPlain ∧ o.files.home.IsProper ∧ IsContained o c ∧
      (c.deliver o .empty).result = .ok false ∧
      ∃ written, (c.deliver o .empty).result = .ok written ∧
        (written = true ↔ ∃ s, c.text? o.library .empty = some s ∧ o.Takes c.destination s) ∧
        (c.deliver o .empty).warnings.length = if written then 0 else 1 := by
  intro o broken c
  have hplain : o.files.home.IsPlain := by decide
  have hproper : o.files.home.IsProper := by decide
  have hc : IsContained o c := by
    refine ⟨fun path hp => ?_, nofun⟩
    obtain rfl := Option.some.inj hp
    decide
  exact ⟨hplain, hproper, hc, by decide +kernel, (exists_report hplain hproper .empty c).1 hc⟩

/-- The fault of a path that holds the character of code point zero escapes, and so does what an
error stream raises that has been closed, or that is missing. -/
theorem not_exists_report_nullByte :
    let o (full : StreamState) : Outlets :=
      ⟨⟨["W".toList], [(["W".toList], .directory)]⟩, [], full, ⟨false, false⟩⟩
    let c (destination : Destination) : Request := .emit destination (.message "m".toList)
    let hidden : Destination := some ['a', Char.ofNat 0, 'b']
    ((c hidden).deliver (o .writable) .empty).result = .error .nullByte ∧
      (¬ ∃ written, ((c hidden).deliver (o .writable) .empty).result = .ok written) ∧
      (¬ ∃ written, ((c none).deliver (o .closed) .empty).result = .ok written) ∧
      ¬ ∃ written, ((c none).deliver (o .missing) .empty).result = .ok written := by
  intro o c hidden
  have h : ((c hidden).deliver (o .writable) .empty).result = .error .nullByte := by
    decide +kernel
  exact ⟨h, by simp [h], by rintro ⟨written, ⟨⟩⟩, by rintro ⟨written, ⟨⟩⟩⟩

end Request

end Marginalia
