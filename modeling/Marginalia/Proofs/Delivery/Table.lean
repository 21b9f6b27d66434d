import Marginalia.Proofs.Delivery.Containment
import Marginalia.Proofs.Render.Choice

/-!
# Delivering a dictionary

Whether a dictionary is delivered depends on its format only where that is YAML. A destination that
takes texts receives one as soon as every object that the dictionary reaches can be described, and
besides whatever the library that writes YAML has a text for.

## Main definitions

* `Value.ofText?`: a text or none as a value
* `Outlets.Received`: outlets that differ by a text at a destination

## Main results

* `Outlets.Outcome.received`: what a delivery that reports success has done
* `Request.table_delivered_iff`: which dictionaries are delivered, and with what text
* `Request.not_table_delivered_iff`: an object that cannot be described, delivered in YAML
-/

namespace Marginalia

/-- A text or none as a value. -/
def Value.ofText? : Option Text → Value
  | Option.none => .none
  | some s => .text s

/-- No text and the empty text name the same format. -/
theorem Store.exists_format_ofText? (σ : Store) (format : Option Text) :
    ∃ f, σ.format (.ofText? format) = .ok f ∧ Renderer.wanted f = Renderer.wanted format := by
  rcases format with _ | _ | ⟨c, s⟩
  · exact ⟨none, rfl, rfl⟩
  · exact ⟨none, rfl, rfl⟩
  · exact ⟨some (c :: s), rfl, rfl⟩

theorem Renderer.select_congr {format format' : Option Text} (h : wanted format = wanted format')
    (lib : Library) : select lib format = select lib format' := by
  rw [select, select, h]

namespace Outlets

/-- The second outlets are the first ones with a text, its line ended, at a destination: at the end
of a file, and nowhere else, or at the end of the error stream. -/
structure Received (o : Outlets) (d : Destination) (s : Text) (o' : Outlets) : Prop where
  /-- The text is at the end of the file. -/
  file : ∀ path, d.path? = some path →
    o.files.Adds (Path.normal o.files.home path).location (Utf8.encode (terminated s)) o'.files ∧
      o'.stream = o.stream
  /-- The text is at the end of the error stream. -/
  stream : d.path? = none → o'.files = o.files ∧ o'.stream = o.stream ++ terminated s

/-- **A delivery that reports success has written its text.** -/
theorem Outcome.received {o : Outlets} {d : Destination} {text? : Option Text} {x : Delivery}
    (h : o.Outcome d text? x) (hx : x.result = .ok true) :
    ∃ s, text? = some s ∧ o.Received d s x.outlets := by
  cases h with
  | @file path s hd ht ha hs =>
    refine ⟨s, ht, ?_, fun hd' => absurd (hd.symm.trans hd') (Option.some_ne_none _)⟩
    intro path' hd'
    obtain rfl := Option.some.inj (hd.symm.trans hd')
    exact ⟨ha, hs⟩
  | @stream s hd ht hf hs =>
    exact ⟨s, ht, fun path hd' => absurd (hd'.symm.trans hd) (Option.some_ne_none _),
      fun _ => ⟨hf, hs⟩⟩
  | lost hr => exact absurd hx hr

end Outlets

namespace Request

variable {o : Outlets} {σ : Store} {d : Destination} {entries : Entries}

/-- The text of a dictionary that is emitted. -/
theorem text?_table (lib : Library) (σ : Store) (d : Destination) (format : Option Text)
    (entries : Entries) : text? lib σ (.emitStructured d (.ofText? format) (.table entries)) =
      (Content.render lib σ format (.table entries)).result.toOption := by
  obtain ⟨f, hf, hwanted⟩ := σ.exists_format_ofText? format
  rw [text?, Request.format, hf]
  dsimp only [content]
  rw [Content.render_table, Content.render_table, Renderer.select_congr hwanted]

/-- Everything that a value reaches can be spelled, if its integers are short, exactly when its
objects can be described. -/
theorem speaks_iff_forall_not_isBroken {v : Value}
    (hints : ∀ i, σ.Reaches v (.int i) → Digits.tooLong i = false) :
    (∀ w : Value, σ.Reaches v w → w.speaks = true) ↔
      ∀ object, σ.Reaches v (.foreign object) → ¬ object.IsBroken := by
  constructor
  · exact fun h object hr => Value.speaks_foreign.mp (h _ hr)
  · intro h w hw
    cases w with
    | int i => simp [Value.speaks, hints i hw]
    | foreign object => exact Value.speaks_foreign.mpr (h object hw)
    | _ => rfl

/-- **Which dictionaries are delivered, and with what text.** A destination that takes texts receives
one exactly when every object that the dictionary reaches can be described, or when the dictionary
is put into YAML and the library has a text for it. It is the text in the format that is chosen if
that does not fail, and the text in the data format otherwise. -/
theorem table_delivered_iff (hproper : o.files.home.IsProper) (hwritable : ∀ s, o.Takes d s)
    (hints : ∀ i, σ.Reaches (.dict entries) (.int i) → Digits.tooLong i = false)
    (format : Option Text) :
    let r := (Renderer.select o.library format).1
    let x := deliver o σ (.emitStructured d (.ofText? format) (.table entries))
    ∃ written, x.result = .ok written ∧
      (written = true ↔
        (∃ s, r = .yaml ∧ o.library.dumper.dump σ entries = .ok s) ∨
          ∀ object, σ.Reaches (.dict entries) (.foreign object) → ¬ object.IsBroken) ∧
      (written = true → ∃ s, o.Received d s x.outlets ∧
        (r.dump o.library σ entries = .ok s ∨
          (∃ e, r.dump o.library σ entries = .error e) ∧ Data.render σ entries = .ok s)) := by
  intro r x
  let c : Request := .emitStructured d (.ofText? format) (.table entries)
  have htext : c.text? o.library σ = _ := text?_table o.library σ d format entries
  -- both sides say whether there is a text: one that there is is delivered
  rw [← speaks_iff_forall_not_isBroken hints, ← Content.succeeds_render_table_iff]
  have hresult : (Content.render o.library σ format (.table entries)).result = _ :=
    Content.result_render_table
  cases hr : (Content.render o.library σ format (.table entries)).result with
  | error e =>
    rw [hr] at htext
    exact ⟨false, result_of_text?_eq_none htext, by simp, nofun⟩
  | ok s =>
    rw [hr] at htext hresult
    have hx : x.result = .ok true := (result_eq_true_iff σ).mpr ⟨s, htext, hwritable s⟩
    refine ⟨true, hx, by simp, fun _ => ?_⟩
    obtain ⟨s', hs', hreceived⟩ := (c.outcome hproper σ).received hx
    obtain rfl : s = s' := Option.some.inj (htext.symm.trans hs')
    refine ⟨s, hreceived, ?_⟩
    cases hdump : r.dump o.library σ entries with
    | ok s' =>
      rw [hdump] at hresult
      exact Or.inl hresult.symm
    | error e =>
      rw [hdump] at hresult
      exact Or.inr ⟨⟨e, rfl⟩, hresult.symm⟩

/-- A list inside itself that holds an object without a form in YAML is delivered in the data
format. An object that cannot be described is not delivered. -/
theorem table_delivered_iff_cyclic :
    let o : Outlets := ⟨⟨["W".toList], [(["W".toList], .directory)]⟩, [], false, ⟨true, false⟩⟩
    let d : Destination := some "d/a".toList
    let closed : Foreign := ⟨.made 0, "object".toList, .shown "<o>".toList, none⟩
    let broken : Foreign := ⟨.made 1, "object".toList, .fails "boom".toList, none⟩
    let σ : Store := ⟨[.list [.shared .list 0, .foreign closed]]⟩
    let cyclic : Entries := [(.text "a".toList, .shared .list 0), (.int 1, .shared .list 0)]
    let hidden : Entries := [(.text "b".toList, .foreign broken)]
    let x := (emitStructured d (.ofText? (some "YAML".toList)) (.table cyclic)).deliver o σ
    (x.result = .ok true ∧ ∃ s, o.Received d s x.outlets ∧ Data.render σ cyclic = .ok s) ∧
      ((emitStructured d (.ofText? none) (.table hidden)).deliver o σ).result = .ok false := by
  intro o d closed broken σ cyclic hidden x
  have hproper : o.files.home.IsProper := by decide
  have hwritable : ∀ s, o.Takes d s := fun s => rfl
  constructor
  · -- the unfolded dictionary is finite, so that what it reaches can be checked
    have hspeaks := (σ.speakable_expand_iff (.dict cyclic)).mp (by decide +kernel)
    have hobjects := fun object hr => Value.speaks_foreign.mp (hspeaks (.foreign object) hr)
    obtain ⟨written, hx, hiff, htext⟩ := table_delivered_iff hproper hwritable
      (fun i hi => by simpa [Value.speaks] using hspeaks _ hi) (some "YAML".toList)
    obtain rfl := hiff.mpr (Or.inr hobjects)
    have hfails : ∀ s, (Renderer.select o.library (some "YAML".toList)).1.dump o.library σ cyclic
        ≠ .ok s := by
      have herror : ((Renderer.select o.library (some "YAML".toList)).1.dump o.library σ
          cyclic).toOption = none := by decide +kernel
      intro s hs
      rw [hs] at herror
      cases herror
    obtain ⟨s, hreceived, hs | ⟨-, hs⟩⟩ := htext rfl
    · exact absurd hs (hfails s)
    · exact ⟨hx, s, hreceived, hs⟩
  · -- nothing else is reached, and no integer
    let p (w : Value) : Prop := w = .dict hidden ∨ w = .text "b".toList ∨ w = .foreign broken
    have hmembers : ∀ v, p v → ∀ u ∈ v.members, p u := by
      rintro v (rfl | rfl | rfl) <;> simp [Value.members, hidden, p]
    have hreach : ∀ {w : Value}, σ.Reaches (.dict hidden) w → p w := fun hw =>
      hw.closed hmembers (by simp [p]) (Or.inl rfl)
    have hmet : σ.Reaches (.dict hidden) (.foreign broken) :=
      .within (.member (by simp [Value.members, hidden]) .self)
    obtain ⟨written, hx, hiff, -⟩ := table_delivered_iff hproper hwritable
      (fun i hi => by simpa [p] using hreach hi) none
    cases written with
    | false => exact hx
    | true =>
      obtain ⟨s, hyaml, -⟩ | hobjects := hiff.mp rfl
      · exact absurd hyaml (by decide)
      · exact absurd ⟨_, rfl⟩ (hobjects broken hmet)

/-- A library may write an object by its class, without describing it. Then an object that cannot be
described is delivered in YAML, and only there. A name that is the one of JSON in capital letters,
but not in small ones, stands for the data format. -/
theorem not_table_delivered_iff :
    let byClass : YamlDumper := ⟨fun _ _ => .ok "b: !!python/object:__main__.B \x7b\x7d\n".toList⟩
    let o : Outlets := ⟨⟨["W".toList], [(["W".toList], .directory)]⟩, [], false,
      @Library.mk true false byClass⟩
    let broken : Foreign := ⟨.made 0, "B".toList, .fails "boom".toList, none⟩
    let hidden : Entries := [(.text "b".toList, .foreign broken)]
    let emit (format : String) (entries : Entries) : Delivery :=
      (emitStructured (some "a".toList) (.ofText? (some format.toList)) (.table entries)).deliver o
        .empty
    let number : Entries := [(.text "k".toList, .int 1)]
    (Store.empty.Reaches (.dict hidden) (.foreign broken) ∧ broken.IsBroken ∧
      (emit "yaml" hidden).result = .ok true ∧ (emit "json" hidden).result = .ok false) ∧
      (emit "jſon" number).outlets.files.file? ["W".toList, "a".toList] =
          (emit "data" number).outlets.files.file? ["W".toList, "a".toList] ∧
        (emit "jſon" number).outlets.files.file? ["W".toList, "a".toList] ≠
          (emit "json" number).outlets.files.file? ["W".toList, "a".toList] := by
  intro byClass o broken hidden emit number
  have hmet : Store.empty.Reaches (.dict hidden) (.foreign broken) :=
    .within (.member (by simp [Value.members, hidden]) .self)
  exact ⟨⟨hmet, ⟨_, rfl⟩, by decide +kernel, by decide +kernel⟩, by decide +kernel,
    by decide +kernel⟩

end Request

end Marginalia
