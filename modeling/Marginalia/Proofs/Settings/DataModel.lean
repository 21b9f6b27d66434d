import Marginalia.Proofs.Settings.Entries

/-!
# Configurations and their types

A JSON text can hold anything anywhere. Whatever it holds, the configuration that it leads to has a
tag for each entry, and every name, every number of frames and every format is what it should be: a
value that cannot be taken is a configuration error, and no part of a configuration is made of it.
This is not so for destinations, which are taken as they are.

## Main definitions

* `Argument.given`, `Argument.Settles`: what settings hold for an argument of the caller, and what
  they make of it
* `Tag.IsTyped`, `Config.IsTyped`: all but the destinations is what it should be
* `Config.IsTextual`: the destinations are texts or none

## Main results

* `Tag.IsFrom.isTyped`: the tag that an entry describes is what it should be
* `Options.resolve_isTyped`: what settings alone come to
* `Options.not_forall_resolve_isTextual`: a destination that is a number
-/

namespace Marginalia

/-- All but the destination of the tag is what it should be: there is a name without blanks at its
ends, a number of frames that is not negative, and a format in lower case. -/
structure Tag.IsTyped (tag : Tag) : Prop where
  name : tag.name ≠ [] ∧ tag.name.strip = tag.name
  depth : 0 ≤ tag.depth
  format : ∃ f, tag.format = .text f ∧ f ≠ [] ∧ f.lower = f

/-- All but the destinations of the configuration is what it should be: there is a tag, and what is
used for the formats of tags is in lower case. -/
structure Config.IsTyped (c : Config) : Prop where
  tags : c.tags ≠ [] ∧ ∀ tag ∈ c.tags, tag.IsTyped
  format : c.format ≠ [] ∧ c.format.lower = c.format

/-- The destinations of the configuration are texts or none. -/
structure Config.IsTextual (c : Config) : Prop where
  output : c.output.IsTextual
  tags : ∀ tag ∈ c.tags, tag.target.IsTextual

/-! ## What settings hold -/

namespace Json

variable {σ : Store} {v entry : Value}

/-- Each of the entries that a sound value lists is sound. -/
theorem isSound_of_mem_entriesIn (h : IsSound v) (hentry : entry ∈ σ.entriesIn v) :
    IsSound entry := by
  unfold Store.entriesIn at hentry
  rw [σ.view_plain h.1] at hentry
  split at hentry
  · exact ⟨Value.plainAll_iff.mp h.1 _ hentry, Value.speakableAll_iff.mp h.2 _ hentry⟩
  · exact ⟨Value.plainAll_iff.mp h.1 _ hentry, Value.speakableAll_iff.mp h.2 _ hentry⟩
  · obtain rfl := List.mem_singleton.mp hentry
    exact h

/-- The options of a sound entry are sound. -/
theorem isSound_of_option? (h : IsSound entry) {key : Text}
    (hv : Tag.option? σ entry key = some v) : IsSound v := by
  obtain ⟨options, hview⟩ := Tag.exists_dict_of_option? hv
  rw [Tag.option?_of_dict hview] at hv
  rw [σ.view_plain h.1] at hview
  subst hview
  exact isSound_of_mem h (Value.mem_of_lookup? hv)

end Json

namespace Argument

variable {tree : FileTree} {σ : Store} {settings : Text} {loaded : Entries} {a : Argument}
  {v : Value}

/-- What settings hold for an argument, where no member is as good as none. -/
def given (loaded : Entries) (a : Argument) : Value := (Value.lookup? a.key loaded).getD .none

theorem isSound_given (hload : Settings.load tree settings = .ok loaded) (a : Argument) :
    Json.IsSound (a.given loaded) := by
  unfold given
  cases hlookup : Value.lookup? a.key loaded with
  | none => exact ⟨rfl, rfl⟩
  | some v => exact isSound_of_load hload hlookup

/-- What settings alone make of an argument: what they hold for it, and none where that is void. -/
inductive Settles (loaded : Entries) (a : Argument) : Value → Prop
  | void (h : (a.given loaded).IsVoid) : Settles loaded a .none
  | given (h : ¬ (a.given loaded).IsVoid) : Settles loaded a (a.given loaded)

/-- Where the caller asks for nothing, an argument is what the settings alone make of it. -/
theorem settles_overridden (hload : Settings.load tree settings = .ok loaded) (a : Argument) :
    a.Settles loaded (overridden σ loaded a.key .none) := by
  cases hlookup : Value.lookup? a.key loaded with
  | none =>
    rw [overridden_of_eq_none hlookup]
    refine .void ?_
    rw [Argument.given, hlookup]
    exact .none
  | some v =>
    have hview : σ.view v = v := view_of_load hload hlookup
    have hgiven : a.given loaded = v := by rw [Argument.given, hlookup, Option.getD_some]
    by_cases hv : v.IsVoid
    · rw [overridden_of_isVoid hlookup (by rwa [hview])]
      exact .void (hgiven ▸ hv)
    · rw [overridden_of_not_isVoid hlookup (by rwa [hview]), ← hgiven]
      exact .given (hgiven ▸ hv)

namespace Settles

variable (h : a.Settles loaded v) (hload : Settings.load tree settings = .ok loaded)

include h

theorem eq_none (hvoid : (a.given loaded).IsVoid) : v = .none := by
  cases h with
  | void _ => rfl
  | given hnot => exact absurd hvoid hnot

theorem eq_given (hvoid : ¬ (a.given loaded).IsVoid) : v = a.given loaded := by
  cases h with
  | void hv => exact absurd hv hvoid
  | given _ => rfl

include hload in
theorem isSound : Json.IsSound v := by
  cases h with
  | void _ => exact ⟨rfl, rfl⟩
  | given _ => exact isSound_given hload a

include hload in
theorem truthy (hvoid : ¬ (a.given loaded).IsVoid) : σ.truthy v = true := by
  rw [Store.truthy_eq_true_iff, h.eq_given hvoid, σ.view_plain (isSound_given hload a).1]
  exact hvoid

include hload in
/-- A void value names the same format as none. -/
theorem formatName_eq (other : Text) :
    σ.formatName (a.given loaded) other = σ.formatName v other := by
  cases h with
  | void hvoid =>
    have hfalse : σ.truthy (a.given loaded) = false := by
      rwa [Store.truthy_eq_false_iff, σ.view_plain (isSound_given hload a).1]
    rw [Store.formatName, if_neg (by simp [hfalse])]
    rfl
  | given _ => rfl

theorem isTextual_iff : v.IsTextual ↔ (a.given loaded).IsVoid ∨ (a.given loaded).IsTextual := by
  cases h with
  | void hvoid => exact iff_of_true (Or.inl rfl) (Or.inl hvoid)
  | given hvoid => exact (or_iff_right hvoid).symm

end Settles

end Argument

/-! ## Tags -/

namespace Tag

variable {σ : Store} {output entry : Value} {format : Text} {tag : Tag}

/-- **The tag that an entry describes is what it should be**, but for its destination. -/
theorem IsFrom.isTyped (h : tag.IsFrom σ output format entry) (hentry : Json.IsSound entry)
    (hformat : format ≠ [] ∧ format.lower = format) : tag.IsTyped := by
  obtain ⟨⟨name, -, hne, hname⟩, ⟨n, -, hdepth⟩, -, f, hf, htag⟩ := h
  have hplain : ((option? σ entry Settings.formatKey).getD .none).plain = true := by
    cases hoption : option? σ entry Settings.formatKey with
    | none => rfl
    | some v => exact (Json.isSound_of_option? hentry hoption).1
  refine ⟨⟨hname ▸ hne, ?_⟩, ?_, f, htag, Store.formatName_of_plain hplain hformat hf⟩
  · rw [hname]
    exact Text.trim_trim _ _
  · rw [hdepth]
    exact Int.natCast_nonneg n

/-- The destination of a tag is a text or none exactly if the one that its entry names is, if it
names one. -/
theorem IsFrom.isTextual_iff (h : tag.IsFrom σ output format entry) (hentry : Json.IsSound entry)
    (houtput : output.IsTextual) : tag.target.IsTextual ↔
      ∀ v, option? σ entry Settings.outputKey = some v → v.IsTextual := by
  rw [h.target]
  cases hoption : option? σ entry Settings.outputKey with
  | none =>
    rw [Option.getD_none, Store.expand_of_isTextual houtput]
    exact iff_of_true houtput nofun
  | some v =>
    rw [Option.getD_some, σ.expand_plain (Json.isSound_of_option? hentry hoption).1]
    simp

end Tag

/-! ## Configurations -/

namespace Options

variable {tree : FileTree} {σ : Store} {o : Options} {settings : Text}

/-- **All of a configuration but the destinations is what it should be**, if it comes from sound
values. -/
theorem isTyped_of_config {c : Config} (hshown : Json.IsSound o.shown)
    (hformat : Json.IsSound o.format) (h : o.config σ = .ok (some c)) : c.IsTyped := by
  obtain ⟨htrue, hf, htags, -⟩ := config_eq_some_iff.mp h
  have hname := Store.formatName_of_plain hformat.1 lower_defaultFormat hf
  refine ⟨⟨?_, ?_⟩, hname⟩
  · -- there are as many tags as entries, and what is shown has an entry
    rw [← List.length_pos_iff, ← htags.length_eq, List.length_pos_iff]
    exact Store.entriesIn_ne_nil htrue
  · have hsound := (List.forall₂_and_left _ _).mpr
      ⟨fun entry => Json.isSound_of_mem_entriesIn (σ := σ) hshown, htags⟩
    exact forall_right_of_forall₂ (fun _ _ htag => htag.2.isTyped htag.1 hname) hsound

/-- The destinations of a configuration are texts or none exactly if those that it comes from
are. -/
theorem isTextual_iff_of_config {c : Config} (hshown : Json.IsSound o.shown)
    (houtput : Json.IsSound o.output) (h : o.config σ = .ok (some c)) :
    c.IsTextual ↔ o.output.IsTextual ∧ ∀ entry ∈ σ.entriesIn o.shown,
      ∀ v, Tag.option? σ entry Settings.outputKey = some v → v.IsTextual := by
  obtain ⟨-, -, htags, hc, -⟩ := config_eq_some_iff.mp h
  rw [σ.expand_plain houtput.1] at hc
  have hiff : c.output.IsTextual → ((∀ entry ∈ σ.entriesIn o.shown,
      ∀ v, Tag.option? σ entry Settings.outputKey = some v → v.IsTextual) ↔
        ∀ tag ∈ c.tags, tag.target.IsTextual) := by
    intro htextual
    have hsound := (List.forall₂_and_left _ _).mpr
      ⟨fun entry => Json.isSound_of_mem_entriesIn (σ := σ) hshown, htags⟩
    -- an entry that names no destination leaves that of the configuration, which is a text or none
    rw [hc] at htextual
    exact forall_iff_of_forall₂ (fun _ _ htag => (htag.2.isTextual_iff htag.1 htextual).symm) hsound
  rw [← hc]
  constructor
  · rintro ⟨htextual, htargets⟩
    exact ⟨htextual, (hiff htextual).mpr htargets⟩
  · rintro ⟨htextual, hentries⟩
    exact ⟨htextual, (hiff htextual).mp hentries⟩

/-- **What settings alone come to.** Take settings in JSON, from wherever they come, and a caller
who asks for no tags, destination or format. If the settings cannot be loaded, that is the fault. If
they hold nothing to show, there is no configuration. If one of the entries to show describes no
tag, that is a configuration error. Otherwise there is a configuration. Its tags are those that the
entries describe, one for one; there is at least one, and all of the configuration but the
destinations is what it should be. The destinations are texts or none exactly if those that the
settings and the entries name are. -/
theorem resolve_isTyped (tree : FileTree) (σ : Store) (hsource : o.source = .ok (some settings))
    (hopen : ∀ a : Argument, a.get o = .none) :
    (∀ e, Settings.load tree settings = .error e → (o.resolve tree σ).2 = .error e) ∧
    ∀ loaded, Settings.load tree settings = .ok loaded →
      let shown := Argument.shown.given loaded
      let output := Argument.output.given loaded
      let format := Argument.format.given loaded
      (shown.IsVoid → (o.resolve tree σ).2 = .ok none) ∧
      (¬ shown.IsVoid → (∃ entry ∈ σ.entriesIn shown, ¬ Tag.IsEntry σ entry) →
        ∃ e, (o.resolve tree σ).2 = .error e ∧ e.className = "ConfigError".toList) ∧
      (¬ shown.IsVoid → (∀ entry ∈ σ.entriesIn shown, Tag.IsEntry σ entry) →
        ∃ c, (o.resolve tree σ).2 = .ok (some c) ∧ c.IsTyped ∧
          List.Forall₂ (Tag.IsFrom σ c.output c.format) (σ.entriesIn shown) c.tags ∧
          Argument.output.Settles loaded c.output ∧
          σ.formatName format defaultFormat = .ok c.format ∧
          (c.IsTextual ↔ (output.IsVoid ∨ output.IsTextual) ∧
            ∀ entry ∈ σ.entriesIn shown, ∀ v, Tag.option? σ entry Settings.outputKey = some v →
              v.IsTextual)) := by
  constructor
  · intro e he
    rw [resolve, hsource]
    dsimp only [configFrom]
    rw [he]
  intro loaded hload shown output format
  have hresolve : (o.resolve tree σ).2 = (o.override σ loaded).config σ := by
    rw [resolve_of_loaded hsource hload]
  -- of the options with the settings applied, only what the settings make of them matters
  have hsettles : ∀ a : Argument, a.Settles loaded (a.get (o.override σ loaded)) := by
    intro a
    rw [get_override, hopen]
    exact Argument.settles_overridden hload a
  generalize o.override σ loaded = applied at hresolve hsettles
  rw [hresolve]
  have hshown : Argument.shown.Settles loaded applied.shown := hsettles .shown
  have houtput : Argument.output.Settles loaded applied.output := hsettles .output
  have hformat : Argument.format.Settles loaded applied.format := hsettles .format
  have hsound := hshown.isSound hload
  have hnamed := hformat.isSound hload
  have haddressed := houtput.isSound hload
  have hdescribed := Store.describes_of_isSound (σ := σ) hsound
  have hspelled := Store.describes_of_isSound (σ := σ) hnamed
  refine ⟨fun hvoid => ?_, fun hvoid hnone => ?_, fun hvoid hall => ?_⟩
  · rw [config, hshown.eq_none hvoid]
    rfl
  · have hgiven : applied.shown = shown := hshown.eq_given hvoid
    rw [← hgiven] at hnone
    exact config_of_not_isEntry hdescribed hspelled (hshown.truthy hload hvoid) hnone
  · have hgiven : applied.shown = shown := hshown.eq_given hvoid
    rw [← hgiven] at hall ⊢
    obtain ⟨c, hc⟩ := exists_config_of_isEntry hdescribed hspelled (hshown.truthy hload hvoid) hall
    obtain ⟨-, hf, htags, hout, -⟩ := config_eq_some_iff.mp hc
    rw [σ.expand_plain haddressed.1] at hout
    rw [← hout] at htags
    refine ⟨c, hc, isTyped_of_config hsound hnamed hc, htags, hout ▸ houtput, ?_, ?_⟩
    · exact (hformat.formatName_eq hload defaultFormat).trans hf
    · rw [isTextual_iff_of_config hsound haddressed hc]
      exact and_congr_left' houtput.isTextual_iff

/-- Settings with a name between blanks and a tag that writes to a number: the configuration is what
it should be but for that destination. Settings with a tag that has no name have none. -/
theorem resolve_isTyped_mixed :
    let tree : FileTree := ⟨["W".toList], [(["W".toList], .directory)]⟩
    let settings := ("\x7b\n   \"show\": [\n      \" a \",\n      \x7b\n" ++
      "         \"tag\": \"b\",\n         \"output\": 5\n      \x7d\n   ]\n\x7d").toList
    let unnamed := "\x7b\n   \"show\": \x7b\n      \"output\": \"log\"\n   \x7d\n\x7d".toList
    let o : Text → Options := fun settings => { empty with settings := some settings }
    (∃ c, ((o settings).resolve tree .empty).2 = .ok (some c) ∧ c.IsTyped ∧ ¬ c.IsTextual) ∧
      ∃ e, ((o unnamed).resolve tree .empty).2 = .error e ∧ e.className = "ConfigError".toList := by
  intro tree settings unnamed o
  have hopen : ∀ (settings : Text) (a : Argument), a.get (o settings) = .none := by
    intro settings a
    cases a <;> rfl
  let options : Entries :=
    [(.text Tag.nameKey, .text "b".toList), (.text Settings.outputKey, .int 5)]
  let nameless : Entries := [(.text Settings.outputKey, .text "log".toList)]
  -- both texts are the JSON of their values
  have hload : Settings.load tree settings =
      .ok [(.text Settings.showKey, .list [.text " a ".toList, .dict options])] := by
    have hoptions : Json.Plain (.dict options) := by
      refine Json.plain_dict [Tag.nameKey, Settings.outputKey] rfl (by decide) ?_
      rw [List.forall_mem_cons, List.forall_mem_singleton]
      exact ⟨Json.plain_text _, Json.plain_int rfl⟩
    have hshown : Json.Plain (.list [.text " a ".toList, .dict options]) := by
      apply Json.plain_list
      rw [List.forall_mem_cons, List.forall_mem_singleton]
      exact ⟨Json.plain_text _, hoptions⟩
    exact Settings.load_of_write (Settings.plain_shown hshown) rfl (Or.inl rfl)
  have hunnamed : Settings.load tree unnamed =
      .ok [(.text Settings.showKey, .dict nameless)] := by
    have hnameless : Json.Plain (.dict nameless) := by
      refine Json.plain_dict [Settings.outputKey] rfl (by decide) ?_
      rw [List.forall_mem_singleton]
      exact Json.plain_text _
    exact Settings.load_of_write (Settings.plain_shown hnameless) rfl (Or.inl rfl)
  constructor
  · obtain ⟨-, hall⟩ := resolve_isTyped (o := o settings) tree .empty rfl (hopen settings)
    obtain ⟨-, -, hconfig⟩ := hall _ hload
    have hshown := Store.truthy_eq_true_iff.mp
      (rfl : Store.empty.truthy (.list [.text " a ".toList, .dict options]) = true)
    have hentries : ∀ entry ∈ [Value.text " a ".toList, .dict options],
        Tag.IsEntry .empty entry := by
      rw [List.forall_mem_cons, List.forall_mem_singleton]
      refine ⟨⟨⟨_, .bare rfl, by decide⟩, 0, .absent rfl⟩, ⟨_, .option rfl, by decide⟩, 0, ?_⟩
      exact .absent rfl
    obtain ⟨c, hc, htyped, -, -, -, htextual⟩ := hconfig hshown hentries
    refine ⟨c, hc, htyped, fun h => ?_⟩
    -- the number is a destination
    have hnumber := (htextual.mp h).2 (.dict options)
      (List.mem_cons_of_mem _ List.mem_cons_self) (.int 5) rfl
    rcases hnumber with h | ⟨s, h⟩ <;> cases h
  · obtain ⟨-, hall⟩ := resolve_isTyped (o := o unnamed) tree .empty rfl (hopen unnamed)
    obtain ⟨-, hrefused, -⟩ := hall _ hunnamed
    have hshown := Store.truthy_eq_true_iff.mp
      (rfl : Store.empty.truthy (.dict nameless) = true)
    refine hrefused hshown ⟨_, List.mem_singleton.mpr rfl, ?_⟩
    rintro ⟨⟨name, hname, -⟩, -⟩
    cases hname with
    | bare h => cases h
    | option h => cases h

/-- A destination that settings give as a number is taken. -/
theorem not_forall_resolve_isTextual :
    ¬ ∀ (tree : FileTree) (σ : Store) (o : Options) (settings : Text) (c : Config),
      o.source = .ok (some settings) → (∀ a : Argument, a.get o = .none) →
      (o.resolve tree σ).2 = .ok (some c) → c.IsTextual := by
  intro h
  let tree : FileTree := ⟨["W".toList], [(["W".toList], .directory)]⟩
  let settings := "\x7b\n   \"show\": \"d\",\n   \"output\": 5\n\x7d".toList
  let loaded : Entries :=
    [(.text Settings.showKey, .text "d".toList), (.text Settings.outputKey, .int 5)]
  let o : Options := { empty with settings := some settings }
  let c : Config := ⟨[⟨"d".toList, 0, .int 5, .text "data".toList⟩], .int 5, "data".toList, false⟩
  have hload : Settings.load tree settings = .ok loaded := by
    have hnumber : Json.Plain (.int 5) := Json.plain_int rfl
    have hplain := Settings.plain_shown_output (Json.plain_text "d".toList) hnumber
    exact Settings.load_of_write hplain rfl (Or.inl rfl)
  have hresolve : (o.resolve tree .empty).2 = .ok (some c) := by
    rw [resolve_of_loaded (o := o) rfl hload]
    rfl
  have htextual := h tree .empty o settings c rfl (fun a => by cases a <;> rfl) hresolve
  rcases htextual.output with h | ⟨s, h⟩ <;> cases h

end Options

end Marginalia
