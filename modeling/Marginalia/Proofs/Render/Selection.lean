import Marginalia.Proofs.Render.Cause
import Marginalia.Proofs.Render.Choice
import Marginalia.Proofs.Text.LowerCase

/-!
# Choosing YAML over and over

The library that writes YAML is looked for each time YAML is wanted. In the meantime it may come and
go, even between the choice of a format for a dictionary and its use. A library that was found stays
in use and a failed look-up leaves no trace, so all that a choice owes to the past is whether YAML
has been chosen before; and what is chosen can be used, whatever happens to the library afterwards.

## Main definitions

* `Renderer.NamesYaml`: the names of YAML
* `Content.renderAcross`: a rendering during which the library comes or goes
* `Content.attempt`: what the format chosen for a dictionary makes of it
* `Selection.Event`: a choice, a rendering, or a change of the surroundings
* `Selection.after`: the library after some events, and the formats chosen on the way
* `Selection.State.Sound`: what the choice of a format comes to in a state

## Main results

* `Renderer.wanted_eq_yaml_iff`: YAML is wanted by its name in capital or small letters
* `Content.renderAcross_self`: a rendering during which the library stays as it is
* `Content.attempt_eq_dump`: what is chosen can be used
* `Selection.remembers_after`: the library is in use once YAML has been chosen, and not before
* `Selection.sound_after`: a choice after any events is sound
-/

namespace Marginalia

/-! ## The library -/

namespace Renderer

/-- A name of YAML: its letters, each of them capital or small. -/
def NamesYaml (format : Option Text) : Prop :=
  ∃ s, format = some s ∧ s.map Char.toLower = yaml.name

/-- **YAML is wanted by its name in capital or small letters**, and by no other name. -/
theorem wanted_eq_yaml_iff {format : Option Text} :
    wanted format = yaml.name ↔ NamesYaml format := by
  have hascii : ∀ d ∈ yaml.name, d.toNat < 0x80 ∧ d ≠ 'k' := by decide
  cases format with
  | none =>
    constructor
    · intro h
      cases h
    · rintro ⟨s, h, -⟩
      cases h
  | some s =>
    constructor
    · exact fun h => ⟨s, rfl, (Text.lower_eq_iff_of_ascii hascii).mp h⟩
    · rintro ⟨_, ⟨⟩, h⟩
      exact (Text.lower_eq_iff_of_ascii hascii).mpr h

variable (lib : Library) (format : Option Text)

/-- A name that is not one of YAML leaves the library as it is. -/
theorem snd_select_of_ne (h : wanted format ≠ yaml.name) : (select lib format).2 = lib := by
  unfold select
  rw [if_neg h]
  split <;> rfl

/-- Without its library, the data format stands in for YAML. -/
theorem fst_select_of_not_available (h : wanted format = yaml.name) (ha : lib.available = false) :
    (select lib format).1 = .data := by
  unfold select
  rw [if_pos h, if_neg (by simp [ha])]

/-- Choosing a format takes note of the library if it finds it. -/
theorem loaded_select : (select lib format).2.loaded = true ↔
    lib.loaded = true ∨ (select lib format).1 = .yaml := by
  by_cases h : wanted format = yaml.name
  · have hselect : (select lib format).2 = lib.find := by
      unfold select
      rw [if_pos h]
      split <;> rfl
    rw [hselect, select_eq_yaml_iff, Library.available]
    simp only [h, true_and, Library.find, Bool.or_eq_true]
    tauto
  · rw [snd_select_of_ne lib format h, select_eq_yaml_iff]
    simp [h]

theorem importable_select : (select lib format).2.importable = lib.importable := by
  unfold select
  dsimp only
  split
  · split <;> rfl
  · split <;> rfl

theorem importable_render (r : Renderer) (σ : Store) (entries : Entries) :
    (r.render lib σ entries).2.importable = lib.importable := by
  cases r <;> rfl

/-- A format whose library is in use, or that needs none, finds nothing new. -/
theorem loaded_render {r : Renderer} {lib : Library} (h : r = .yaml → lib.loaded = true) (σ : Store)
    (entries : Entries) : (r.render lib σ entries).2.loaded = lib.loaded := by
  cases r with
  | yaml =>
    change (lib.loaded || lib.importable) = lib.loaded
    rw [h rfl, Bool.true_or]
  | _ => rfl

end Renderer

/-! ## Renderings -/

namespace Content

/-- The text of some content, if from the choice of the format on the library can be found, or
cannot, as given. -/
def renderAcross (lib : Library) (importable : Bool) (σ : Store) (format : Option Text) :
    Content → Rendering
  | .message s => ⟨.ok s, { lib with importable }, []⟩
  | .table entries =>
    let (renderer, lib) := Renderer.select lib format
    renderer.present { lib with importable } σ entries

/-- **A rendering during which the library stays as it is.** -/
theorem renderAcross_self (lib : Library) (σ : Store) (format : Option Text) (content : Content) :
    content.renderAcross lib lib.importable σ format = content.render lib σ format := by
  cases content with
  | message s => rfl
  | table entries => rw [render_table, renderAcross, ← Renderer.importable_select lib format]

/-- What the format chosen for a dictionary makes of it, if from the choice on the library can be
found, or cannot, as given. -/
def attempt (lib : Library) (importable : Bool) (σ : Store) (format : Option Text)
    (entries : Entries) : Except RenderFault Text :=
  let (renderer, lib) := Renderer.select lib format
  (renderer.render { lib with importable } σ entries).1

/-- **What is chosen can be used**, whatever happens to the library after the choice. -/
theorem attempt_eq_dump (lib : Library) (importable : Bool) (σ : Store) (format : Option Text)
    (entries : Entries) : attempt lib importable σ format entries =
      (Renderer.select lib format).1.dump lib σ entries := by
  -- the look-up leaves alone what the library writes
  have hdump : (Renderer.select lib format).1.dump
      { (Renderer.select lib format).2 with importable } σ entries =
        (Renderer.select lib format).1.dump lib σ entries :=
    Renderer.dump_congr _ (Renderer.alike_select lib format).dumper σ entries
  rw [← hdump]
  refine Renderer.fst_render_of_available (fun hyaml => ?_) σ entries
  exact Library.available_of_loaded ((Renderer.loaded_select lib format).mpr (.inr hyaml))

theorem result_renderAcross_table (lib : Library) (importable : Bool) (σ : Store)
    (format : Option Text) (entries : Entries) :
    ((Content.table entries).renderAcross lib importable σ format).result =
      match attempt lib importable σ format entries with
      | .ok s => .ok s
      | .error _ => Data.render σ entries :=
  Renderer.result_present _ _ σ entries

/-- A missing library is never why some content has no text: the data format needs none. -/
theorem result_renderAcross_ne (lib : Library) (importable : Bool) (σ : Store)
    (format : Option Text) (content : Content) :
    (content.renderAcross lib importable σ format).result ≠ .error .noLibrary := by
  cases content with
  | message s => nofun
  | table entries =>
    rw [result_renderAcross_table]
    split
    · nofun
    · exact Renderer.dump_ne_noLibrary .data lib σ entries

/-- The formats that are chosen for some content: a message needs none. -/
def choices (lib : Library) (format : Option Text) : Content → List Renderer
  | .message _ => []
  | .table _ => [(Renderer.select lib format).1]

end Content

/-! ## Events -/

namespace Selection

/-- What happens to the library. -/
inductive Event where
  /-- It can be found from now on, or cannot. -/
  | library (importable : Bool)
  /-- A format is chosen. -/
  | choose (format : Option Text)
  /-- Some content is rendered; from the choice of its format on, the library can be found, or
  cannot. -/
  | render (σ : Store) (format : Option Text) (content : Content) (importable : Bool)

/-- Whether the library can be found after an event. -/
def Event.importable (before : Bool) : Event → Bool
  | library importable => importable
  | choose _ => before
  | render _ _ _ importable => importable

/-- The library, and the formats that have been chosen so far, in order. -/
structure State where
  /-- The library. -/
  library : Library
  /-- The formats that have been chosen. -/
  chosen : List Renderer

/-- The state after an event. -/
def State.next (s : State) : Event → State
  | .library importable => { s with library := { s.library with importable } }
  | .choose format =>
    let (renderer, lib) := Renderer.select s.library format
    ⟨lib, s.chosen ++ [renderer]⟩
  | .render σ format content importable =>
    ⟨(content.renderAcross s.library importable σ format).library,
      s.chosen ++ content.choices s.library format⟩

/-- The state after some events. At first the library is not in use. -/
def after [YamlDumper] (importable : Bool) (past : List Event) : State :=
  past.foldl State.next ⟨⟨importable, false⟩, []⟩

/-- Whether the library can be found after some events. -/
def importableAfter (importable : Bool) (past : List Event) : Bool :=
  past.foldl Event.importable importable

/-! ## What is remembered -/

/-- The library is in use exactly if YAML has been chosen. -/
def State.Remembers (s : State) : Prop := s.library.loaded = true ↔ .yaml ∈ s.chosen

/-- **An event is remembered** if those before it are: choosing YAML puts the library into use, and
nothing else does, nor does anything take it out of use. -/
theorem State.Remembers.next {s : State} (h : s.Remembers) (e : Event) : (s.next e).Remembers := by
  -- a rendering is a choice, and its look-up afterwards adds nothing
  have hchoice : ∀ format, (Renderer.select s.library format).2.loaded = true ↔
      .yaml ∈ s.chosen ++ [(Renderer.select s.library format).1] := by
    intro format
    unfold Remembers at h
    rw [Renderer.loaded_select, h, List.mem_append, List.mem_singleton, eq_comm]
  cases e with
  | library importable => exact h
  | choose format => exact hchoice format
  | render σ format content importable =>
    cases content with
    | message text =>
      change s.library.loaded = true ↔ .yaml ∈ s.chosen ++ []
      rw [List.append_nil]
      exact h
    | table entries =>
      -- if YAML was chosen, its library is in use by now, even if it can no longer be found
      have hused : (Renderer.select s.library format).1 = .yaml →
          ({ (Renderer.select s.library format).2 with importable } : Library).loaded = true :=
        fun hyaml => (Renderer.loaded_select s.library format).mpr (.inr hyaml)
      change ((Renderer.select s.library format).1.present
        { (Renderer.select s.library format).2 with importable } σ entries).library.loaded = true ↔
          _
      rw [Renderer.library_present, Renderer.loaded_render hused]
      exact hchoice format

/-- **The library is in use once YAML has been chosen, and not before.** -/
theorem remembers_after [YamlDumper] (importable : Bool) (past : List Event) :
    (after importable past).Remembers := by
  have hrun : ∀ (s : State), s.Remembers → (past.foldl State.next s).Remembers := by
    induction past with
    | nil => exact fun s hs => hs
    | cons e past ih => exact fun s hs => ih (s.next e) (hs.next e)
  exact hrun _ ⟨nofun, nofun⟩

theorem State.importable_next (s : State) (e : Event) :
    (s.next e).library.importable = e.importable s.library.importable := by
  cases e with
  | library importable => rfl
  | choose format => exact Renderer.importable_select s.library format
  | render σ format content importable =>
    cases content with
    | message text => rfl
    | table entries =>
      change ((Renderer.select s.library format).1.present
        { (Renderer.select s.library format).2 with importable } σ entries).library.importable = _
      rw [Renderer.library_present, Renderer.importable_render]
      rfl

/-- Choices and renderings leave alone whether the library can be found. -/
theorem importable_after [YamlDumper] (importable : Bool) (past : List Event) :
    (after importable past).library.importable = importableAfter importable past := by
  have hrun : ∀ (s : State), (past.foldl State.next s).library.importable =
      past.foldl Event.importable s.library.importable := by
    induction past with
    | nil => exact fun _ => rfl
    | cons e past ih =>
      intro s
      rw [List.foldl_cons, List.foldl_cons, ih, s.importable_next]
  exact hrun _

/-! ## What a choice comes to -/

/-- What the choice of a format comes to in a state, if the library can be found, or cannot. -/
structure State.Sound (s : State) (importable : Bool) (format : Option Text) : Prop where
  /-- Where YAML has been chosen before, it is chosen whenever it is wanted. -/
  again : Renderer.NamesYaml format → .yaml ∈ s.chosen →
    (Renderer.select s.library format).1 = .yaml
  /-- Before that, it is chosen if the library can be found now, however often it could not. -/
  first : Renderer.NamesYaml format → .yaml ∉ s.chosen →
    (Renderer.select s.library format).1 = if importable then .yaml else .data
  /-- Where it is not wanted, it is not chosen, and the library stays as it is. -/
  other : ¬ Renderer.NamesYaml format → (Renderer.select s.library format).1 ≠ .yaml ∧
    (Renderer.select s.library format).2 = s.library
  /-- What is chosen for a dictionary fails for causes in the dictionary only, and not for want of
  the library, whether that can still be found or not. -/
  usable : ∀ (importable' : Bool) (σ : Store) (entries : Entries),
    Content.attempt s.library importable' σ format entries =
        (Renderer.select s.library format).1.dump s.library σ entries ∧
      Content.attempt s.library importable' σ format entries ≠ .error .noLibrary
  /-- Nor does any content lack a text for want of the library. -/
  rendered : ∀ (importable' : Bool) (σ : Store) (content : Content),
    (content.renderAcross s.library importable' σ format).result ≠ .error .noLibrary

variable {s : State} {format : Option Text}

theorem State.Remembers.select_eq_yaml (h : s.Remembers) (hname : Renderer.NamesYaml format)
    (hmem : .yaml ∈ s.chosen) : (Renderer.select s.library format).1 = .yaml :=
  (Renderer.select_eq_yaml_iff s.library format).mpr
    ⟨Renderer.wanted_eq_yaml_iff.mpr hname, Library.available_of_loaded (h.mpr hmem)⟩

theorem State.Remembers.select_eq_ite (h : s.Remembers) (hname : Renderer.NamesYaml format)
    (hnot : .yaml ∉ s.chosen) :
    (Renderer.select s.library format).1 = if s.library.importable then .yaml else .data := by
  have hwanted := Renderer.wanted_eq_yaml_iff.mpr hname
  have hloaded : s.library.loaded = false := Bool.eq_false_iff.mpr fun hl => hnot (h.mp hl)
  have havailable : s.library.available = s.library.importable := by
    rw [Library.available, Library.find, hloaded, Bool.false_or]
  cases himp : s.library.importable with
  | true =>
    exact (Renderer.select_eq_yaml_iff s.library format).mpr ⟨hwanted, havailable.trans himp⟩
  | false =>
    exact Renderer.fst_select_of_not_available s.library format hwanted (havailable.trans himp)

/-- **A choice after any events is sound**, whatever the library makes of a dictionary. -/
theorem sound_after [YamlDumper] (importable : Bool) (past : List Event) (format : Option Text) :
    (after importable past).Sound (importableAfter importable past) format where
  again := (remembers_after importable past).select_eq_yaml
  first hname hnot := by
    rw [← importable_after]
    exact (remembers_after importable past).select_eq_ite hname hnot
  other hname := by
    have hwanted : Renderer.wanted format ≠ Renderer.yaml.name :=
      fun h => hname (Renderer.wanted_eq_yaml_iff.mp h)
    exact ⟨fun h => hwanted ((Renderer.select_eq_yaml_iff _ format).mp h).1,
      Renderer.snd_select_of_ne _ format hwanted⟩
  usable importable' σ entries := by
    rw [Content.attempt_eq_dump]
    exact ⟨rfl, Renderer.dump_ne_noLibrary _ _ σ entries⟩
  rendered importable' σ content := content.result_renderAcross_ne _ importable' σ format

-- the library is looked for in vain, then it is found, and it stays in use when it has gone
example : (after false [.choose (some "yaml".toList), .library true, .choose (some "YAML".toList),
    .library false, .choose none, .choose (some "Yaml".toList)]).chosen =
      [.data, .yaml, .data, .yaml] := by decide

end Selection

end Marginalia
