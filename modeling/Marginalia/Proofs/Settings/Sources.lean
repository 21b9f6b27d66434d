import Marginalia.Proofs.Json.LineEnds
import Marginalia.Proofs.Settings.FixedPoint

/-!
# The same settings from different sources

Settings are a text in braces or lead to one in a file, and the caller or a variable gives them. The
text of a file comes with other line ends than it is written with, wherever these stand, and is no
JSON text at all if its author is careless. Nevertheless the sources agree: they give the same
members, or fail with the same class of errors.

## Main definitions

* `Options.Asks`: the settings that options ask for

## Main results

* `Settings.decode_unixLines`: decoding does not depend on line ends
* `Options.config_congr`: what a configuration depends on
* `Options.resolve_sources`: settings from different sources agree
-/

namespace Marginalia

namespace Settings

variable {tree : FileTree} {path t : Text}

/-- **Decoding does not depend on line ends**: it gives the same members or the same class of
errors. -/
theorem decode_unixLines (s : Text) :
    (decode s.unixLines).mapError SettingsFault.className =
      (decode s).mapError SettingsFault.className := by
  have hread := Json.read_unixLines s
  unfold decode
  cases hs : Json.read s with
  | ok v =>
    rw [hs] at hread
    cases hs' : Json.read s.unixLines with
    | error e' =>
      rw [hs'] at hread
      cases hread
    | ok v' =>
      rw [hs'] at hread
      obtain rfl : v' = v := Except.ok.inj hread
      cases v' <;> rfl
  | error e =>
    rw [hs] at hread
    cases hs' : Json.read s.unixLines with
    | error e' =>
      rw [hs'] at hread
      -- the position is not part of the class
      have he : e'.unplaced = e.unplaced := Except.error.inj hread
      cases e <;> cases e' <;> cases he <;> rfl
    | ok v' =>
      rw [hs'] at hread
      cases hread

theorem load_of_braces (hhead : t.head? = some '\x7b') (hlast : t.getLast? = some '\x7d') :
    load tree t = decode t := by
  rw [load_literal tree (isLiteral_of_braces hhead hlast), strip_of_braces hhead hlast]

/-- The text of a file comes with line feeds only. -/
theorem load_of_read (hpath : isLiteral path = false)
    (hread : tree.read path = .ok (Utf8.encode t)) : load tree path = decode t.unixLines := by
  have htext : textOf tree path = .ok t.unixLines := by
    rw [textOf, hpath, FileTree.readText, hread]
    dsimp only
    rw [Utf8.decode_encode]
    rfl
  rw [load, htext]

/-- **A text in braces and a file that holds it agree.** -/
theorem load_sources (hhead : t.head? = some '\x7b') (hlast : t.getLast? = some '\x7d')
    (hpath : isLiteral path = false) (hread : tree.read path = .ok (Utf8.encode t)) :
    (load tree path).mapError SettingsFault.className =
      (load tree t).mapError SettingsFault.className := by
  rw [load_of_read hpath hread, load_of_braces hhead hlast, decode_unixLines]

end Settings

namespace Options

variable {tree : FileTree} {σ : Store} {o o' : Options} {settings settings' path t : Text}

/-- The options ask for these settings: the caller gives them and names no variable, or a variable
that the caller names holds them. -/
inductive Asks (o : Options) (settings : Text) : Prop
  | given (hname : ∀ name, o.variableName = some name → name = []) (h : o.settings = some settings)
  | held {name : Text} (hname : o.variableName = some name) (hne : name ≠ [])
    (h : o.held name = settings)

theorem Asks.source_eq (h : o.Asks settings) (hne : settings ≠ []) :
    o.source = .ok (some settings) := by
  unfold source
  cases h with
  | given hname h =>
    split
    · rw [h]
    · next name hsome => rw [hname name hsome, h]; rfl
  | held hname hnamed h =>
    rw [hname]
    dsimp only
    rw [if_neg (by simpa using hnamed), h, if_neg (by simpa using hne)]

/-- **What a configuration depends on.** -/
theorem config_congr (hshown : o'.shown = o.shown) (houtput : o'.output = o.output)
    (hformat : o'.format = o.format) (hexec : o'.execEnabled = o.execEnabled) :
    o'.config σ = o.config σ := by
  unfold config
  rw [hshown, houtput, hformat, hexec]

/-- Settings that load alike make the same of options that ask for the same otherwise. -/
theorem resolve_of_load (hsource : o.source = .ok (some settings))
    (hsource' : o'.source = .ok (some settings'))
    (hload : (Settings.load tree settings').mapError SettingsFault.className =
      (Settings.load tree settings).mapError SettingsFault.className)
    (hshown : o'.shown = o.shown) (houtput : o'.output = o.output)
    (hformat : o'.format = o.format) (hexec : o'.execEnabled = o.execEnabled) :
    (o'.resolve tree σ).2.mapError SettingsFault.className =
      (o.resolve tree σ).2.mapError SettingsFault.className := by
  have hconfig : ∀ (o : Options) (settings : Text), o.configFrom tree σ (some settings) =
      (Settings.load tree settings).bind fun overrides => (o.override σ overrides).config σ := by
    intro o settings
    rw [configFrom]
    cases Settings.load tree settings <;> rfl
  rw [resolve, hsource', resolve, hsource]
  dsimp only
  rw [hconfig, hconfig]
  refine mapError_bind_congr hload fun overrides => ?_
  have hoverride : (o'.override σ overrides).config σ = (o.override σ overrides).config σ := by
    apply config_congr
    · simp only [override, hshown]
    · simp only [override, houtput]
    · simp only [override, hformat]
    · exact hexec
  rw [hoverride]

/-- **Settings from different sources agree.** Take a text in braces, JSON or not and whatever ends
its lines, and the path of a file that holds it. Loading the text and loading the path give the same
members, or fail with the same class of errors. So do options that ask for the text or for the path,
given by the caller or held by a variable, and that ask for the same otherwise: nothing is noted on
the way, and they have the same configuration, or fail with the same class of errors. -/
theorem resolve_sources (hhead : t.head? = some '\x7b') (hlast : t.getLast? = some '\x7d')
    (hpath : Settings.isLiteral path = false) (hread : tree.read path = .ok (Utf8.encode t)) :
    (Settings.load tree path).mapError SettingsFault.className =
        (Settings.load tree t).mapError SettingsFault.className ∧
      ∀ (σ : Store) (o o' : Options), (o.Asks t ∨ o.Asks path) → (o'.Asks t ∨ o'.Asks path) →
        o'.shown = o.shown → o'.output = o.output → o'.format = o.format →
        o'.execEnabled = o.execEnabled →
        (o.resolve tree σ).1 = [] ∧ (o'.resolve tree σ).1 = [] ∧
          (o'.resolve tree σ).2.mapError SettingsFault.className =
            (o.resolve tree σ).2.mapError SettingsFault.className := by
  have hload := Settings.load_sources hhead hlast hpath hread
  have htext : t ≠ [] := by
    rintro rfl
    cases hhead
  have hname : path ≠ [] := by
    rintro rfl
    cases hread
  -- either way the settings are the text or lead to it
  have hasks : ∀ o : Options, (o.Asks t ∨ o.Asks path) → ∃ settings,
      o.source = .ok (some settings) ∧
        (Settings.load tree settings).mapError SettingsFault.className =
          (Settings.load tree t).mapError SettingsFault.className := by
    rintro o (h | h)
    · exact ⟨t, h.source_eq htext, rfl⟩
    · exact ⟨path, h.source_eq hname, hload⟩
  refine ⟨hload, fun σ o o' ho ho' hshown houtput hformat hexec => ?_⟩
  obtain ⟨settings, hsource, h⟩ := hasks o ho
  obtain ⟨settings', hsource', h'⟩ := hasks o' ho'
  refine ⟨?_, ?_, resolve_of_load hsource hsource' (h'.trans h.symm) hshown houtput hformat hexec⟩
  · rw [resolve, hsource]
  · rw [resolve, hsource']

/-- Carriage returns between tokens, alone and in front of line feeds: the text as it is, a variable
that holds it and the path of its file give one configuration. In a string they are as wrong in a
file as in the text, although the file comes without them. -/
theorem resolve_sources_mixed :
    let t := "\x7b\r\n\"show\":\r[\"a\",\n\r\"b\"]\r\x7d".toList
    let broken := "\x7b\"show\": \"a\r\"\x7d".toList
    let tree : FileTree := ⟨["W".toList], [(["W".toList], .directory),
      (["W".toList, "f".toList], .file (Utf8.encode t)),
      (["W".toList, "g".toList], .file (Utf8.encode broken))]⟩
    let own : Options := { empty with format := .text "JSON".toList, settings := some "f".toList }
    let held : Options := { empty with
      format := .text "JSON".toList, settings := some "g".toList, variableName := some "V".toList
      environment := [("V".toList, t)] }
    (held.resolve tree .empty).2.mapError SettingsFault.className =
        (own.resolve tree .empty).2.mapError SettingsFault.className ∧
      (own.resolve tree .empty).2.toOption.isSome = true ∧
      (Settings.load tree "g".toList).mapError SettingsFault.className =
        .error "ConfigError".toList := by
  intro t broken tree own held
  have hown : own.Asks "f".toList := .given nofun rfl
  have hheld : held.Asks t := .held rfl (by decide) rfl
  obtain ⟨-, hresolve⟩ := @resolve_sources tree "f".toList t rfl rfl rfl rfl
  obtain ⟨-, -, hsame⟩ := hresolve .empty own held (Or.inr hown) (Or.inl hheld) rfl rfl rfl rfl
  refine ⟨hsame, rfl, ?_⟩
  -- the file loads like the text, which is wrong where the string holds the carriage return
  obtain ⟨hload, -⟩ := @resolve_sources tree "g".toList broken rfl rfl rfl rfl
  rw [hload]
  rfl

end Options

end Marginalia
