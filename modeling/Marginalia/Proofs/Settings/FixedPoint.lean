import Marginalia.Proofs.Json.RoundTrip
import Marginalia.Proofs.Settings.FormatName
import Marginalia.Proofs.Text.RawLines
import Marginalia.Proofs.Text.Utf8
import Marginalia.Proofs.Text.Words

/-!
# Configurations as settings

A configuration that options have been resolved to can be written down as settings, and these
settings lead back to it: whatever has been filled in or brought into a normal form stays as it is.

## Main definitions

* `Config.settings`: the settings that describe a configuration
* `Options.applied?`: the options with the settings that apply
* `Options.IsTextual`: options whose destinations and formats are texts or none
* `Config.IsResolved`: configurations in normal form

## Main results

* `Options.isResolved_of_config`: resolving options leads to a normal form
* `Config.IsResolved.config_override`: a configuration in normal form is described by its settings
* `Options.resolve_settings`: a resolved configuration is a fixed point of its settings
-/

namespace Marginalia

/-! ## Descriptions -/

/-- The options that describe a tag. -/
def Tag.options (tag : Tag) : Entries :=
  [(.text nameKey, .text tag.name), (.text depthKey, .int tag.depth),
    (.text Settings.outputKey, tag.target), (.text Settings.formatKey, tag.format)]

/-- The settings that describe a configuration. -/
def Config.settings (c : Config) : Entries :=
  [(.text Settings.showKey, .list (c.tags.map fun tag => .dict tag.options)),
    (.text Settings.outputKey, c.output), (.text Settings.formatKey, .text c.format)]

/-- The value is a text or none. -/
def Value.IsTextual (v : Value) : Prop := v = .none ∨ ∃ s, v = .text s

theorem Value.IsTextual.plain {v : Value} (h : v.IsTextual) : v.plain = true := by
  rcases h with rfl | ⟨s, rfl⟩ <;> rfl

/-- A tag in normal form. -/
structure Tag.IsResolved (tag : Tag) : Prop where
  name : tag.name ≠ [] ∧ tag.name.strip = tag.name
  depth : 0 ≤ tag.depth
  target : tag.target.IsTextual
  format : ∃ f, tag.format = .text f ∧ f ≠ [] ∧ f.lower = f

/-- A configuration in normal form. -/
structure Config.IsResolved (c : Config) : Prop where
  tags : c.tags ≠ [] ∧ ∀ tag ∈ c.tags, tag.IsResolved
  output : c.output = .none ∨ ∃ s, s ≠ [] ∧ c.output = .text s
  format : c.format ≠ [] ∧ c.format.lower = c.format

/-- A text or none is a text or none, whether or not the text may be empty. -/
theorem Value.isTextual_of_ne_nil {v : Value} (h : v = .none ∨ ∃ s, s ≠ [] ∧ v = .text s) :
    v.IsTextual := by
  rcases h with rfl | ⟨s, -, rfl⟩
  · exact Or.inl rfl
  · exact Or.inr ⟨s, rfl⟩

/-! ## Options -/

namespace Options

variable {tree : FileTree} {σ : Store} {o o' : Options} {c : Config}

/-- The options with the settings that apply, if these can be used. -/
def applied? (tree : FileTree) (σ : Store) (o : Options) : Option Options :=
  match o.source with
  | .error _ => none
  | .ok none => some o
  | .ok (some settings) => (Settings.load tree settings).toOption.map (o.override σ ·)

/-- The destinations and formats are texts or none, and the destination of tags without one of their
own is not the empty text. -/
structure IsTextual (σ : Store) (o : Options) : Prop where
  output : o.output = .none ∨ ∃ s, s ≠ [] ∧ o.output = .text s
  format : o.format.IsTextual
  entry : ∀ entry ∈ σ.entriesIn o.shown, ∀ options, σ.view entry = .dict options →
    ∀ key v, key = Settings.outputKey ∨ key = Settings.formatKey →
      Value.lookup? key options = some v → v.IsTextual

theorem exists_applied?_of_resolve (h : (o.resolve tree σ).2 = .ok (some c)) :
    ∃ o', o.applied? tree σ = some o' ∧ o'.config σ = .ok (some c) := by
  unfold resolve at h
  unfold applied?
  cases hsource : o.source with
  | error name => simp [hsource] at h
  | ok settings =>
    rw [hsource] at h
    cases settings with
    | none => exact ⟨o, rfl, h⟩
    | some settings =>
      dsimp only [configFrom] at h
      split at h
      · cases h
      · next overrides hload =>
        exact ⟨o.override σ overrides, by simp [hload, Except.toOption], h⟩

end Options

/-! ## Normal forms -/

namespace Store

variable {σ : Store} {v : Value} {s other : Text}

theorem truthy_text (σ : Store) (s : Text) : σ.truthy (.text s) = !s.isEmpty := rfl

theorem expand_of_isTextual (h : v.IsTextual) : σ.expand v = v :=
  σ.expand_plain h.plain

/-- A name in lower case is the name of its format. -/
theorem formatName_text (hne : s ≠ []) (hlower : s.lower = s) (other : Text) :
    σ.formatName (.text s) other = .ok s := by
  have htruthy : σ.truthy (.text s) = true := by simpa [truthy_text] using hne
  rw [formatName, if_pos htruthy]
  exact congrArg Except.ok hlower

theorem entriesIn_ne_nil (h : σ.truthy v = true) : σ.entriesIn v ≠ [] := by
  unfold truthy at h
  unfold entriesIn
  split <;> simp_all

end Store

namespace Tag

variable {σ : Store} {entry output : Value} {format name : Text} {options : Entries} {tag : Tag}

theorem strip_of_nameOf? (h : nameOf? options = some name) : name.strip ≠ [] := by
  unfold nameOf? at h
  split at h
  · split at h
    · cases h
    · next hne =>
      obtain rfl := Option.some.inj h
      simpa using hne
  · cases h

theorem isTextual_getD {v : Value} {key : Text} (hv : v.IsTextual)
    (h : ∀ w, Value.lookup? key options = some w → w.IsTextual) :
    ((Value.lookup? key options).getD v).IsTextual := by
  cases hw : Value.lookup? key options with
  | none => exact hv
  | some w => exact h w hw

/-- **A tag is in normal form**, if destinations and formats are texts or none. -/
theorem isResolved_of_ofEntry (houtput : output.IsTextual)
    (hformat : format ≠ [] ∧ format.lower = format)
    (hentry : ∀ options, σ.view entry = .dict options → ∀ key v,
      key = Settings.outputKey ∨ key = Settings.formatKey →
        Value.lookup? key options = some v → v.IsTextual)
    (h : ofEntry σ output format entry = .ok tag) : tag.IsResolved := by
  unfold ofEntry at h
  split at h
  · -- a bare name takes over the destination and the format
    next name _ =>
    unfold ofName at h
    split at h
    · cases h
    · next hne =>
      obtain rfl := Except.ok.inj h
      exact ⟨⟨by simpa using hne, Text.trim_trim _ _⟩, Int.le_refl 0,
        by rwa [Store.expand_of_isTextual houtput], format, rfl, hformat⟩
  · next options hview =>
    have htextual := hentry options hview
    unfold ofOptions at h
    split at h
    · cases h
    next name hname =>
    dsimp only at h
    split at h
    · cases h
    next depth _ =>
    split at h
    · cases h
    next f hf =>
    obtain rfl := Except.ok.inj h
    have htarget : ((Value.lookup? Settings.outputKey options).getD output).IsTextual :=
      isTextual_getD houtput fun w => htextual _ w (Or.inl rfl)
    refine ⟨⟨strip_of_nameOf? hname, Text.trim_trim _ _⟩, Int.natCast_nonneg depth, ?_, f, rfl,
      Store.formatName_of_plain (Value.IsTextual.plain ?_) hformat hf⟩
    · rwa [Store.expand_of_isTextual htarget]
    · exact isTextual_getD (Or.inl rfl) fun w => htextual _ w (Or.inr rfl)
  · cases h

theorem isResolved_of_ofEntries {entries : List Value} {tags : List Tag}
    (hentries : ∀ entry ∈ entries, ∀ tag, ofEntry σ output format entry = .ok tag → tag.IsResolved)
    (h : ofEntries σ output format entries = .ok tags) :
    tags.length = entries.length ∧ ∀ tag ∈ tags, tag.IsResolved := by
  induction entries generalizing tags with
  | nil =>
    obtain rfl := Except.ok.inj h
    exact ⟨rfl, nofun⟩
  | cons entry rest ih =>
    obtain ⟨hentry, hrest⟩ := List.forall_mem_cons.mp hentries
    rw [ofEntries] at h
    split at h
    · cases h
    next tag htag =>
    obtain ⟨tags, htags, rfl⟩ := Value.map_eq_ok_iff.mp h
    obtain ⟨hlength, hall⟩ := ih hrest htags
    exact ⟨by simp [hlength], List.forall_mem_cons.mpr ⟨hentry tag htag, hall⟩⟩

end Tag

namespace Options

variable {σ : Store} {o : Options} {c : Config}

/-- **Resolving options leads to a normal form**, if destinations and formats are texts or none. -/
theorem isResolved_of_config (ho : o.IsTextual σ) (h : o.config σ = .ok (some c)) :
    c.IsResolved := by
  have houtput := Value.isTextual_of_ne_nil ho.output
  unfold config at h
  split at h
  · next hshown =>
    split at h
    · cases h
    next format hformat =>
    split at h
    · cases h
    next tags htags =>
    obtain rfl := Option.some.inj (Except.ok.inj h)
    have hlower := Store.formatName_of_plain ho.format.plain lower_defaultFormat hformat
    obtain ⟨hlength, hall⟩ := Tag.isResolved_of_ofEntries
      (fun entry hentry _ => Tag.isResolved_of_ofEntry houtput hlower (ho.entry entry hentry)) htags
    refine ⟨⟨?_, hall⟩, ?_, hlower⟩
    · rw [← List.length_pos_iff, hlength, List.length_pos_iff]
      exact Store.entriesIn_ne_nil hshown
    · rw [Store.expand_of_isTextual houtput]
      exact ho.output
  · cases h

end Options

/-! ## Reading descriptions -/

namespace Tag

variable {σ : Store} {tag : Tag}

theorem depthOf?_int {i : Int} (h : 0 ≤ i) : depthOf? σ (.int i) = some i.toNat := by
  unfold depthOf?
  split
  · exact if_neg (by omega)
  · next hzero =>
    have hi : i = 0 := by simpa [Store.truthy, Store.view] using hzero
    rw [hi]
    rfl

theorem lookup?_options (tag : Tag) :
    Value.lookup? nameKey tag.options = some (.text tag.name) ∧
      Value.lookup? depthKey tag.options = some (.int tag.depth) ∧
      Value.lookup? Settings.outputKey tag.options = some tag.target ∧
      Value.lookup? Settings.formatKey tag.options = some tag.format := ⟨rfl, rfl, rfl, rfl⟩

/-- **A tag in normal form is described by its options**, whatever is used otherwise. -/
theorem IsResolved.ofEntry_options (h : tag.IsResolved) (output : Value) (format : Text) :
    ofEntry σ output format (.dict tag.options) = .ok tag := by
  obtain ⟨⟨hne, hstrip⟩, hdepth, htarget, f, hf, hfne, hflower⟩ := h
  obtain ⟨hname, hasked, houtput, hformat⟩ := tag.lookup?_options
  have hnamed : nameOf? tag.options = some tag.name := by
    rw [nameOf?, hname]
    exact if_neg (by simpa [hstrip] using hne)
  have hnumber : (tag.depth.toNat : Int) = tag.depth := Int.toNat_of_nonneg hdepth
  unfold ofEntry Store.view ofOptions
  dsimp only
  -- every option is there, so that neither `output` nor `format` is filled in
  rw [hnamed, hasked, houtput, hformat]
  dsimp only [Option.getD_some]
  rw [depthOf?_int hdepth, hf, Store.formatName_text hfne hflower]
  dsimp only
  rw [Store.expand_of_isTextual htarget, hstrip, hnumber, ← hf]

theorem ofEntries_options {tags : List Tag} (h : ∀ tag ∈ tags, tag.IsResolved) (output : Value)
    (format : Text) :
    ofEntries σ output format (tags.map fun tag => .dict tag.options) = .ok tags := by
  induction tags with
  | nil => rfl
  | cons tag rest ih =>
    obtain ⟨htag, hrest⟩ := List.forall_mem_cons.mp h
    rw [List.map_cons, ofEntries, htag.ofEntry_options, ih hrest]
    rfl

end Tag

namespace Config

variable {σ : Store} {c : Config}

theorem lookup?_settings (c : Config) :
    Value.lookup? Settings.showKey c.settings = some (.list (c.tags.map fun t => .dict t.options)) ∧
      Value.lookup? Settings.outputKey c.settings = some c.output ∧
      Value.lookup? Settings.formatKey c.settings = some (.text c.format) := ⟨rfl, rfl, rfl⟩

theorem recognised_settings (c : Config) : Settings.recognised c.settings = c.settings := rfl

/-- The settings of a configuration in normal form take the place of whatever the caller asks for,
but for the destination where the configuration has none. -/
theorem IsResolved.override_settings (h : c.IsResolved) {o : Options}
    (houtput : c.output = .none → o.output = .none) : o.override σ c.settings =
      { o with
        shown := .list (c.tags.map fun tag => .dict tag.options)
        output := c.output
        format := .text c.format } := by
  obtain ⟨hshown, hlookup, hname⟩ := c.lookup?_settings
  have htags : σ.truthy (.list (c.tags.map fun tag => .dict tag.options)) = true := by
    simpa [Store.truthy, Store.view] using h.tags.1
  have hformat : σ.truthy (.text c.format) = true := by
    simpa [Store.truthy_text] using h.format.1
  have hout : overridden σ c.settings Settings.outputKey o.output = c.output := by
    rw [overridden, hlookup]
    -- no destination in the settings leaves that of the caller
    rcases h.output with hnone | ⟨s, hs, htext⟩
    · rw [hnone, houtput hnone]
      rfl
    · rw [htext]
      exact if_pos (by simpa [Store.truthy_text] using hs)
  unfold Options.override
  rw [hout, overridden, hshown, overridden, hname]
  dsimp only
  rw [if_pos htags, if_pos hformat]

/-- **A configuration in normal form is described by its settings.** -/
theorem IsResolved.config_override (h : c.IsResolved) {o : Options}
    (houtput : c.output = .none → o.output = .none)
    (hexec : σ.truthy o.execEnabled = c.execEnabled) :
    (o.override σ c.settings).config σ = .ok (some c) := by
  have hshown : σ.truthy (.list (c.tags.map fun tag => .dict tag.options)) = true := by
    simpa [Store.truthy, Store.view] using h.tags.1
  have hout := Value.isTextual_of_ne_nil h.output
  have hentries : σ.entriesIn (.list (c.tags.map fun tag => .dict tag.options)) =
      c.tags.map fun tag => .dict tag.options := rfl
  rw [h.override_settings houtput, Options.config]
  dsimp only
  rw [if_pos hshown, Store.formatName_text h.format.1 h.format.2, hentries]
  dsimp only
  rw [Tag.ofEntries_options h.tags.2]
  dsimp only
  rw [Store.expand_of_isTextual hout, hexec]

/-! ## Written settings -/

theorem plain_of_isTextual {v : Value} (h : v.IsTextual) : Json.Plain v := by
  rcases h with rfl | ⟨s, rfl⟩
  · exact Json.plain_none
  · exact Json.plain_text s

theorem plain_tag {tag : Tag} (h : tag.IsResolved) (hshort : Digits.tooLong tag.depth = false) :
    Json.Plain (.dict tag.options) := by
  obtain ⟨f, hf, -⟩ := h.format
  have hdepth : Json.Plain (.int tag.depth) := Json.plain_int hshort
  refine Json.plain_dict [Tag.nameKey, Tag.depthKey, Settings.outputKey, Settings.formatKey] rfl
    (by decide) ?_
  simp only [Tag.options, List.forall_mem_cons, List.not_mem_nil, false_imp_iff, implies_true,
    and_true]
  exact ⟨Json.plain_text tag.name, hdepth, plain_of_isTextual h.target, hf ▸ Json.plain_text f⟩

/-- The settings of a configuration in normal form have a JSON form. -/
theorem IsResolved.plain_settings (h : c.IsResolved)
    (hshort : ∀ tag ∈ c.tags, Digits.tooLong tag.depth = false) :
    Json.Plain (.dict c.settings) := by
  have htags : Json.Plain (.list (c.tags.map fun tag => .dict tag.options)) := by
    refine Json.plain_list fun v hv => ?_
    obtain ⟨tag, ht, rfl⟩ := List.mem_map.mp hv
    exact plain_tag (h.tags.2 tag ht) (hshort tag ht)
  have hout := Value.isTextual_of_ne_nil h.output
  refine Json.plain_dict Settings.keys rfl (by decide) ?_
  simp only [settings, List.forall_mem_cons, List.not_mem_nil, false_imp_iff, implies_true,
    and_true]
  exact ⟨htags, plain_of_isTextual hout, Json.plain_text c.format⟩

end Config

/-- The settings are a text, or the path of a file that holds the text. -/
def Settings.Leads (tree : FileTree) (settings s : Text) : Prop :=
  settings = s ∨ Settings.isLiteral settings = false ∧ tree.read settings = .ok (Utf8.encode s)

/-- Nothing around a text in braces is blank. -/
theorem Settings.strip_of_braces {s : Text} (hhead : s.head? = some '\x7b')
    (hlast : s.getLast? = some '\x7d') : s.strip = s := by
  apply Text.IsTrimmed.trim_eq
  constructor
  · intro c hc
    obtain rfl := Option.some.inj (hhead.symm.trans hc)
    decide
  · intro c hc
    obtain rfl := Option.some.inj (hlast.symm.trans hc)
    decide

/-- A text in braces is no path. -/
theorem Settings.isLiteral_of_braces {s : Text} (hhead : s.head? = some '\x7b')
    (hlast : s.getLast? = some '\x7d') : Settings.isLiteral s = true := by
  rw [isLiteral, strip_of_braces hhead hlast, hhead]
  rfl

/-- Nothing around the text of a dictionary is blank. -/
theorem Settings.strip_of_write {s : Text} {entries : Entries}
    (h : Json.write 0 (.dict entries) = .ok s) : s.strip = s :=
  strip_of_braces (Json.braces_of_write h).1 (Json.braces_of_write h).2

/-- The text of a dictionary is no path. -/
theorem Settings.isLiteral_of_write {s : Text} {entries : Entries}
    (h : Json.write 0 (.dict entries) = .ok s) : Settings.isLiteral s = true :=
  isLiteral_of_braces (Json.braces_of_write h).1 (Json.braces_of_write h).2

/-- A JSON text is loaded as it is, from wherever it is. -/
theorem Settings.load_of_write {tree : FileTree} {settings s : Text} {entries : Entries}
    (h : Json.Plain (.dict entries)) (hs : Json.write 0 (.dict entries) = .ok s)
    (hleads : Settings.Leads tree settings s) :
    Settings.load tree settings = .ok (Settings.recognised entries) := by
  have htext : textOf tree settings = .ok s := by
    rcases hleads with rfl | ⟨hliteral, hread⟩
    · rw [textOf, if_pos (isLiteral_of_write hs), strip_of_write hs]
    · have hunix : s.unixLines = s := Text.unixLines_of_notMem (Json.notMem_cr_write h hs)
      rw [textOf, hliteral, FileTree.readText, hread]
      dsimp only
      rw [Utf8.decode_encode]
      dsimp only
      rw [hunix]
      rfl
  rw [load, htext]
  dsimp only
  rw [decode, Json.read_write h hs]

namespace Options

variable {tree : FileTree} {σ : Store} {o : Options} {c : Config}

/-- **A resolved configuration is a fixed point of its settings.** If destinations and formats are
texts or none, the settings that describe the configuration have a JSON text. Whatever tags, format
and destination the caller asks for, these settings lead back to the configuration, be they given as
the text itself or as the path of a file that holds it, and be they given by the caller or by a
variable. Running code is up to the caller, and so is the destination where the configuration has
none. -/
theorem resolve_settings (h : (o.resolve tree σ).2 = .ok (some c))
    (htextual : ∀ o', o.applied? tree σ = some o' → o'.IsTextual σ)
    (hshort : ∀ tag ∈ c.tags, Digits.tooLong tag.depth = false) :
    ∃ s, Json.render .empty c.settings = .ok s ∧
      ∀ (tree' : FileTree) (σ' : Store) (o' : Options) (settings : Text),
        o'.source = .ok (some settings) → Settings.Leads tree' settings s →
        σ'.truthy o'.execEnabled = c.execEnabled → (c.output = .none → o'.output = .none) →
        o'.resolve tree' σ' = ([], .ok (some c)) := by
  obtain ⟨applied, happlied, hconfig⟩ := exists_applied?_of_resolve h
  have hresolved := isResolved_of_config (htextual applied happlied) hconfig
  have hplain := hresolved.plain_settings hshort
  obtain ⟨s, hrender, hwrite, -⟩ := Json.exists_render .empty hplain
  refine ⟨s, hrender, fun tree' σ' o' settings hsource hleads hexec hout => ?_⟩
  rw [resolve, hsource]
  dsimp only [configFrom]
  rw [Settings.load_of_write hplain hwrite hleads, c.recognised_settings]
  dsimp only
  rw [hresolved.config_override hout hexec]

/-- A name between blanks, a tag that opts out of the destination and formats in capitals: their
settings, given as a text, by a variable or in a file, lead back to the same configuration. -/
theorem resolve_settings_mixed :
    let tags : Value := .list [.text " a ".toList,
      .dict [(.text "tag".toList, .text "b".toList), (.text "trace".toList, .int 2),
        (.text "output".toList, .none), (.text "format".toList, .text "JSON".toList)]]
    let o : Options := { empty with
      shown := tags, output := .text "log".toList, format := .text "YAML".toList }
    let c : Config := ⟨[⟨"a".toList, 0, .text "log".toList, .text "yaml".toList⟩,
      ⟨"b".toList, 2, .none, .text "json".toList⟩], .text "log".toList, "yaml".toList, false⟩
    let tree : FileTree := ⟨["W".toList], [(["W".toList], .directory)]⟩
    (o.resolve tree .empty).2 = .ok (some c) ∧
      ∃ s, Json.render .empty c.settings = .ok s ∧
        ({ empty with settings := some s, shown := .int 5 }).resolve tree .empty =
          ([], .ok (some c)) ∧
        let filed : FileTree :=
          ⟨["W".toList],
            [(["W".toList], .directory), (["W".toList, "f".toList], .file (Utf8.encode s))]⟩
        ({ empty with variableName := some "V".toList, environment := [("V".toList, "f".toList)] }
          ).resolve filed .empty = ([], .ok (some c)) := by
  intro tags o c tree
  have hresolve : (o.resolve tree .empty).2 = .ok (some c) := rfl
  have htextual : ∀ o', o.applied? tree .empty = some o' → o'.IsTextual .empty := by
    rintro o' ⟨⟩
    refine ⟨Or.inr ⟨_, by decide, rfl⟩, Or.inr ⟨_, rfl⟩, ?_⟩
    intro entry hentry options hview key v hkey hlookup
    obtain rfl | hentry := List.mem_cons.mp hentry
    · cases hview
    · cases List.mem_singleton.mp hentry
      cases hview
      rcases hkey with rfl | rfl
      · exact Or.inl (Option.some.inj hlookup).symm
      · exact Or.inr ⟨_, (Option.some.inj hlookup).symm⟩
  obtain ⟨s, hs, hall⟩ := resolve_settings hresolve htextual (by decide)
  -- as a text, and then through the variable and its file
  refine ⟨hresolve, s, hs, hall tree .empty _ s rfl (Or.inl rfl) rfl nofun, ?_⟩
  exact hall _ .empty _ "f".toList rfl (Or.inr ⟨by decide, rfl⟩) rfl nofun

end Options

end Marginalia
