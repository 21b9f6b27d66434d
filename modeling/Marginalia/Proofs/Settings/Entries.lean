import Marginalia.Proofs.Render.Cause
import Marginalia.Proofs.Settings.FixedPoint
import Marginalia.Proofs.Settings.Override

/-!
# What entries describe

An entry describes a tag if it gives a name that is more than blanks and asks for a number of
frames. It may be the bare name or hold options. Among entries the first one that describes no tag
ends the reading, and with it the whole call.

## Main definitions

* `Tag.Names`, `Tag.Asks`: the name that an entry gives and the number of frames it asks for
* `Tag.IsEntry`: the entries that describe a tag
* `Tag.IsFrom`: the tag that an entry describes
* `Tag.IsRefused`: options that describe none

## Main results

* `Tag.ofEntry_eq_ok_iff`: reading an entry gives the tag that it describes
* `Tag.ofEntries_eq_ok_iff`, `Tag.ofEntries_eq_error_iff`: reading entries, and its first fault
* `Options.resolve_mapping`: exactly the refused options make a call fail
* `Options.not_forall_resolve_mapping_false`: a number of frames that is none and is not refused
-/

namespace Marginalia

/-- A value that cannot be spelled is no configuration error. -/
theorem SettingsFault.className_value_ne {v : Value} {fault : RenderFault}
    (h : v.literal = .error fault) : (SettingsFault.value fault).className ≠ "ConfigError".toList := by
  have hcause : Renderer.data.blames fault = true :=
    (Value.failsFor_shape Value.ellipsis v).map Shape.oneLine fault h
  cases fault with
  | description _ => exact of_decide_eq_true rfl
  | tooManyDigits => exact of_decide_eq_true rfl
  | _ => cases hcause

/-- Nothing is left between the blanks at the ends of a text exactly if it holds blanks only. -/
theorem Text.strip_eq_nil_iff {s : Text} : s.strip = [] ↔ ∀ c ∈ s, isBlank c = true := by
  rw [strip, Text.trim_eq_iff]
  constructor
  · rintro ⟨⟨a, b, rfl, ha, hb⟩, -⟩
    simpa using fun c hc => hc.elim (ha c) (hb c)
  · intro h
    exact ⟨⟨s, [], by simp, h, by simp⟩, ⟨by simp, by simp⟩⟩

namespace Tag

variable {σ : Store} {output entry v : Value} {format name : Text} {options : Entries} {tag : Tag}
  {entries : List Value} {tags : List Tag} {n : Nat}

/-! ## Entries -/

/-- An option of an entry; a bare name has none. -/
def option? (σ : Store) (entry : Value) (key : Text) : Option Value :=
  match σ.view entry with
  | .dict options => Value.lookup? key options
  | _ => none

/-- The entry gives the name: it is the name, or an option says so. -/
inductive Names (σ : Store) (entry : Value) (name : Text) : Prop
  | bare (h : σ.view entry = .text name)
  | option (h : option? σ entry nameKey = some (.text name))

/-- The entry asks for a number of frames: a natural number, or none where the option is missing or
void. -/
inductive Asks (σ : Store) (entry : Value) : Nat → Prop
  | absent (h : option? σ entry depthKey = none) : Asks σ entry 0
  | void {v : Value} (h : option? σ entry depthKey = some v) (hv : (σ.view v).IsVoid) :
    Asks σ entry 0
  | number {n : Nat} (h : option? σ entry depthKey = some (.int n)) : Asks σ entry n

/-- An entry that describes a tag. -/
structure IsEntry (σ : Store) (entry : Value) : Prop where
  /-- It gives a name that is more than blanks. -/
  name : ∃ name, Names σ entry name ∧ name.strip ≠ []
  /-- It asks for a number of frames. -/
  depth : ∃ n, Asks σ entry n

/-- The tag that an entry describes, where `output` and `format` are used for what it leaves
open. -/
structure IsFrom (σ : Store) (output : Value) (format : Text) (entry : Value) (tag : Tag) :
    Prop where
  name : ∃ name, Names σ entry name ∧ name.strip ≠ [] ∧ tag.name = name.strip
  depth : ∃ n : Nat, Asks σ entry n ∧ tag.depth = n
  target : tag.target = σ.expand ((option? σ entry Settings.outputKey).getD output)
  format : ∃ f, σ.formatName ((option? σ entry Settings.formatKey).getD .none) format = .ok f ∧
    tag.format = .text f

theorem option?_of_text (h : σ.view entry = .text name) (key : Text) :
    option? σ entry key = none := by
  rw [option?, h]

theorem option?_of_dict (h : σ.view entry = .dict options) (key : Text) :
    option? σ entry key = Value.lookup? key options := by
  rw [option?, h]

/-- Only options have options. -/
theorem exists_dict_of_option? {key : Text} (h : option? σ entry key = some v) :
    ∃ options, σ.view entry = .dict options := by
  unfold option? at h
  split at h
  · next options hview => exact ⟨options, hview⟩
  · cases h

/-- An entry gives one name only. -/
theorem Names.eq {name' : Text} (h : Names σ entry name) (h' : Names σ entry name') :
    name = name' := by
  cases h with
  | bare h =>
    cases h' with
    | bare h' => exact Value.text.inj (h.symm.trans h')
    | option h' =>
      rw [option?_of_text h] at h'
      cases h'
  | option h =>
    cases h' with
    | bare h' =>
      rw [option?_of_text h'] at h
      cases h
    | option h' => exact Value.text.inj (Option.some.inj (h.symm.trans h'))

/-- The number of frames of a void value is none, and that of a natural number is the number. -/
theorem depthOf?_eq_some_iff :
    depthOf? σ v = some n ↔ ((σ.view v).IsVoid ∧ n = 0) ∨ v = .int n := by
  constructor
  · intro h
    unfold depthOf? at h
    split at h
    · split at h
      · next i =>
        split at h
        · cases h
        · obtain rfl := Option.some.inj h
          rw [Int.toNat_of_nonneg (by omega)]
          exact Or.inr rfl
      · cases h
    · next hvoid =>
      obtain rfl := Option.some.inj h
      exact Or.inl ⟨Store.truthy_eq_false_iff.mp (by simpa using hvoid), rfl⟩
  · rintro (⟨hvoid, rfl⟩ | rfl)
    · unfold depthOf?
      exact if_neg (by simp [Store.truthy_eq_false_iff.mpr hvoid])
    · exact depthOf?_int (Int.natCast_nonneg n)

theorem asks_iff :
    Asks σ entry n ↔ depthOf? σ ((option? σ entry depthKey).getD (.int 0)) = some n := by
  constructor
  · intro h
    cases h with
    | absent h =>
      rw [h]
      exact depthOf?_int (Int.le_refl 0)
    | void h hv =>
      rw [h]
      exact depthOf?_eq_some_iff.mpr (Or.inl ⟨hv, rfl⟩)
    | number h =>
      rw [h]
      exact depthOf?_eq_some_iff.mpr (Or.inr rfl)
  · intro h
    cases hoption : option? σ entry depthKey with
    | none =>
      -- a missing option is read as zero
      rw [hoption] at h
      obtain rfl : 0 = n := Option.some.inj ((depthOf?_int (Int.le_refl 0)).symm.trans h)
      exact .absent hoption
    | some v =>
      rw [hoption] at h
      rcases depthOf?_eq_some_iff.mp h with ⟨hv, rfl⟩ | hv
      · exact .void hoption hv
      · exact .number (hoption.trans (congrArg some hv))

theorem nameOf?_eq_some_iff : nameOf? options = some name ↔
    Value.lookup? nameKey options = some (.text name) ∧ name.strip ≠ [] := by
  constructor
  · intro h
    refine ⟨?_, strip_of_nameOf? h⟩
    unfold nameOf? at h
    split at h
    · next hlookup =>
      split at h
      · cases h
      · obtain rfl := Option.some.inj h
        exact hlookup
    · cases h
  · rintro ⟨hlookup, hne⟩
    rw [nameOf?, hlookup]
    exact if_neg (by simpa using hne)

/-- Reading options, where these give a name and ask for a number of frames. -/
theorem ofOptions_eq (hname : nameOf? options = some name)
    (hdepth : depthOf? σ ((Value.lookup? depthKey options).getD (.int 0)) = some n) :
    ofOptions σ output format options =
      (σ.formatName ((Value.lookup? Settings.formatKey options).getD .none) format).map fun f =>
        ⟨name.strip, n, σ.expand ((Value.lookup? Settings.outputKey options).getD output),
          .text f⟩ := by
  unfold ofOptions
  rw [hname]
  dsimp only
  rw [hdepth]
  dsimp only
  cases σ.formatName ((Value.lookup? Settings.formatKey options).getD .none) format <;> rfl

/-- Options that are read give a name and ask for a number of frames. -/
theorem exists_of_ofOptions (h : ofOptions σ output format options = .ok tag) :
    ∃ name n, nameOf? options = some name ∧
      depthOf? σ ((Value.lookup? depthKey options).getD (.int 0)) = some n := by
  unfold ofOptions at h
  split at h
  · cases h
  next name hname =>
  dsimp only at h
  split at h
  · cases h
  next n hdepth => exact ⟨name, n, hname, hdepth⟩

/-- What is read from an entry is the tag that it describes. -/
theorem isFrom_of_ofEntry (h : ofEntry σ output format entry = .ok tag) :
    tag.IsFrom σ output format entry := by
  unfold ofEntry at h
  split at h
  · next name hview =>
    have hoption := option?_of_text hview
    unfold ofName at h
    split at h
    · cases h
    · next hne =>
      -- a bare name leaves everything else open
      obtain rfl := Except.ok.inj h
      refine ⟨⟨name, .bare hview, by simpa using hne, rfl⟩, ⟨0, .absent (hoption _), rfl⟩, ?_,
        format, ?_, rfl⟩
      · rw [hoption]
        rfl
      · rw [hoption]
        rfl
  · next options hview =>
    have hoption := option?_of_dict hview
    obtain ⟨name, n, hname, hdepth⟩ := exists_of_ofOptions h
    rw [ofOptions_eq hname hdepth] at h
    obtain ⟨f, hf, rfl⟩ := Value.map_eq_ok_iff.mp h
    obtain ⟨hlookup, hne⟩ := nameOf?_eq_some_iff.mp hname
    refine ⟨⟨name, .option ((hoption _).trans hlookup), hne, rfl⟩, ⟨n, asks_iff.mpr ?_, rfl⟩, ?_,
      f, ?_, rfl⟩
    · rwa [hoption]
    · rw [hoption]
    · rwa [hoption]
  · cases h

/-- The tag that an entry describes is what is read from it. -/
theorem IsFrom.ofEntry_eq (h : tag.IsFrom σ output format entry) :
    ofEntry σ output format entry = .ok tag := by
  obtain ⟨⟨name, hnames, hne, hname⟩, ⟨n, hasks, hdepth⟩, htarget, f, hf, hformat⟩ := h
  obtain ⟨tagName, depth, target, tagFormat⟩ := tag
  dsimp only at hname hdepth htarget hformat
  subst hname hdepth htarget hformat
  have hn := asks_iff.mp hasks
  unfold ofEntry
  cases hnames with
  | bare hview =>
    have hoption := option?_of_text hview
    rw [hoption] at hn hf
    -- nothing is asked for, and nothing is named but the tag
    obtain rfl : 0 = n := Option.some.inj hn
    obtain rfl : format = f := Except.ok.inj hf
    rw [hview, hoption]
    exact if_neg (by simpa using hne)
  | option hlookup =>
    obtain ⟨options, hview⟩ := exists_dict_of_option? hlookup
    have hoption := option?_of_dict hview
    rw [hoption] at hn hf hlookup
    rw [hview, hoption]
    dsimp only
    rw [ofOptions_eq (nameOf?_eq_some_iff.mpr ⟨hlookup, hne⟩) hn, hf]
    rfl

/-- **Reading an entry gives the tag that it describes.** -/
theorem ofEntry_eq_ok_iff :
    ofEntry σ output format entry = .ok tag ↔ tag.IsFrom σ output format entry :=
  ⟨isFrom_of_ofEntry, IsFrom.ofEntry_eq⟩

theorem IsFrom.isEntry (h : tag.IsFrom σ output format entry) : IsEntry σ entry := by
  obtain ⟨name, hname, hne, -⟩ := h.name
  obtain ⟨n, hn, -⟩ := h.depth
  exact ⟨⟨name, hname, hne⟩, n, hn⟩

/-- An entry that describes a tag has it, if its format has a name. -/
theorem IsEntry.exists_isFrom (h : IsEntry σ entry) (output : Value) {f : Text}
    (hf : σ.formatName ((option? σ entry Settings.formatKey).getD .none) format = .ok f) :
    ∃ tag : Tag, tag.IsFrom σ output format entry := by
  obtain ⟨⟨name, hname, hne⟩, n, hn⟩ := h
  exact ⟨⟨name.strip, n, _, .text f⟩, ⟨name, hname, hne, rfl⟩, ⟨n, hn, rfl⟩, rfl, f, hf, rfl⟩

/-- An entry that can be described and describes a tag has it. -/
theorem IsEntry.exists_isFrom_of_describes (h : IsEntry σ entry) (hentry : σ.Describes entry)
    (output : Value) (format : Text) : ∃ tag : Tag, tag.IsFrom σ output format entry := by
  have hformat : σ.Describes ((option? σ entry Settings.formatKey).getD .none) := by
    cases hoption : option? σ entry Settings.formatKey with
    | none => exact Store.describes_of_isSound ⟨rfl, rfl⟩
    | some v =>
      obtain ⟨options, hview⟩ := exists_dict_of_option? hoption
      have hoptions := hentry.view
      rw [hview] at hoptions
      rw [← hoption, option?_of_dict hview]
      exact hoptions.getD (Store.describes_of_isSound ⟨rfl, rfl⟩) _
  obtain ⟨f, hf⟩ := hformat.exists_formatName format
  exact h.exists_isFrom output hf

/-- What is wrong with a format is that it cannot be spelled. -/
theorem className_of_formatName {e : SettingsFault} (h : σ.formatName v format = .error e) :
    e.className ≠ "ConfigError".toList := by
  unfold Store.formatName at h
  split at h
  · unfold Store.textOf at h
    split at h
    · cases h
    · split at h
      · cases h
      · next fault hfault =>
          exact Except.error.inj h ▸ SettingsFault.className_value_ne hfault
  · cases h

/-- Nothing is wrong with the settings where an entry describes a tag. -/
theorem IsEntry.className_of_ofEntry (h : IsEntry σ entry) {e : SettingsFault}
    (he : ofEntry σ output format entry = .error e) : e.className ≠ "ConfigError".toList := by
  cases hf : σ.formatName ((option? σ entry Settings.formatKey).getD .none) format with
  | ok f =>
    obtain ⟨tag, htag⟩ := h.exists_isFrom output hf
    rw [htag.ofEntry_eq] at he
    cases he
  | error e' =>
    obtain ⟨⟨name, hname, hne⟩, n, hn⟩ := h
    cases hname with
    | bare hview =>
      -- a bare name has no format that could be wrong
      rw [option?_of_text hview] at hf
      cases hf
    | option hlookup =>
      obtain ⟨options, hview⟩ := exists_dict_of_option? hlookup
      rw [asks_iff, option?_of_dict hview] at hn
      rw [option?_of_dict hview] at hlookup hf
      rw [ofEntry, hview] at he
      dsimp only at he
      rw [ofOptions_eq (nameOf?_eq_some_iff.mpr ⟨hlookup, hne⟩) hn, hf] at he
      obtain rfl := Except.error.inj he
      exact className_of_formatName hf

/-! ## Lists of entries -/

theorem ofEntries_eq_mapM (entries : List Value) :
    ofEntries σ output format entries = entries.mapM (ofEntry σ output format) := by
  induction entries with
  | nil => rfl
  | cons entry rest ih =>
    rw [List.mapM_cons, ofEntries, ih]
    cases ofEntry σ output format entry with
    | error e => rfl
    | ok tag => cases rest.mapM (ofEntry σ output format) <;> rfl

/-- **Reading entries** gives the tags that they describe, one for one. -/
theorem ofEntries_eq_ok_iff : ofEntries σ output format entries = .ok tags ↔
    List.Forall₂ (IsFrom σ output format) entries tags := by
  simp only [ofEntries_eq_mapM, mapM_eq_ok_iff, ofEntry_eq_ok_iff]

/-- **The first fault ends the reading** of entries, whatever comes after it. -/
theorem ofEntries_eq_error_iff {e : SettingsFault} :
    ofEntries σ output format entries = .error e ↔
      ∃ before entry after, entries = before ++ entry :: after ∧
        (∀ other ∈ before, ∃ tag : Tag, tag.IsFrom σ output format other) ∧
        ofEntry σ output format entry = .error e := by
  simp only [ofEntries_eq_mapM, mapM_eq_error_iff, ofEntry_eq_ok_iff]

/-- Entries that all describe tags are read. -/
theorem exists_ofEntries
    (h : ∀ entry ∈ entries, ∃ tag : Tag, tag.IsFrom σ output format entry) :
    ∃ tags, ofEntries σ output format entries = .ok tags := by
  rw [ofEntries_eq_mapM]
  exact exists_mapM_eq_ok fun entry hentry => (h entry hentry).imp fun _ htag => htag.ofEntry_eq

/-- The tags that entries describe have the names that these give, without blanks at the ends. -/
theorem map_name_of_forall₂ {names : List Text}
    (htags : List.Forall₂ (IsFrom σ output format) entries tags)
    (hnames : List.Forall₂ (Names σ) entries names) :
    tags.map Tag.name = names.map Text.strip := by
  induction htags generalizing names with
  | nil =>
    cases hnames
    rfl
  | cons htag _ ih =>
    cases hnames with
    | cons hname hrest =>
      obtain ⟨name, hgiven, -, hstrip⟩ := htag.name
      rw [List.map_cons, List.map_cons, ih hrest, hstrip, hgiven.eq hname]

/-! ## Refused options -/

/-- Options that describe no tag: they give no name that is more than blanks, or ask for a number of
frames with a value that is neither void nor a natural number. -/
def IsRefused (σ : Store) (options : Entries) : Prop :=
  (∀ name : Text, Value.lookup? nameKey options = some (.text name) →
      ∀ c ∈ name, isBlank c = true) ∨
    ∃ v, Value.lookup? depthKey options = some v ∧ ¬ (σ.view v).IsVoid ∧ ∀ n : Nat, v ≠ .int n

/-- **The refused options** are those that describe no tag. -/
theorem isRefused_iff (hview : σ.view entry = .dict options) :
    IsRefused σ options ↔ ¬ IsEntry σ entry := by
  have hoption := option?_of_dict hview
  constructor
  · rintro (hname | ⟨v, hv, hvoid, hnumber⟩) ⟨⟨name, hnames, hne⟩, n, hn⟩
    · cases hnames with
      | bare h => cases hview.symm.trans h
      | option h =>
        rw [hoption] at h
        exact hne (Text.strip_eq_nil_iff.mpr (hname name h))
    · rw [asks_iff, hoption, hv] at hn
      rcases depthOf?_eq_some_iff.mp hn with ⟨h, -⟩ | h
      · exact hvoid h
      · exact hnumber n h
  · intro h
    by_contra hrefused
    obtain ⟨hname, hdepth⟩ := not_or.mp hrefused
    apply h
    constructor
    · simp only [not_forall] at hname
      obtain ⟨name, hlookup, c, hc, hblank⟩ := hname
      refine ⟨name, .option ((hoption _).trans hlookup), ?_⟩
      exact fun hnil => hblank (Text.strip_eq_nil_iff.mp hnil c hc)
    · -- what is not refused is absent, void or a natural number, and asks for frames as such
      cases hlookup : Value.lookup? depthKey options with
      | none => exact ⟨0, .absent ((hoption _).trans hlookup)⟩
      | some v =>
        by_cases hvoid : (σ.view v).IsVoid
        · exact ⟨0, .void ((hoption _).trans hlookup) hvoid⟩
        · -- a value that counts as true and is not refused is a natural number
          have hnumber : ∃ n : Nat, v = .int n := by
            by_contra hnone
            exact hdepth ⟨v, hlookup, hvoid, not_exists.mp hnone⟩
          obtain ⟨n, rfl⟩ := hnumber
          exact ⟨n, .number ((hoption _).trans hlookup)⟩

/-- The number of frames that options ask for. -/
theorem Asks.eq_of_dict (h : Asks σ entry n) (hview : σ.view entry = .dict options) :
    (∀ k : Nat, Value.lookup? depthKey options = some (.int k) → n = k) ∧
      ((∀ k : Nat, Value.lookup? depthKey options ≠ some (.int k)) → n = 0) := by
  have hoption := option?_of_dict hview depthKey
  cases h with
  | absent h =>
    rw [hoption] at h
    refine ⟨fun k hk => ?_, fun _ => rfl⟩
    cases h.symm.trans hk
  | void h hv =>
    rw [hoption] at h
    refine ⟨fun k hk => ?_, fun _ => rfl⟩
    -- the only void number is zero
    obtain rfl := Option.some.inj (h.symm.trans hk)
    have hzero : ((k : Int) != 0) = false := Store.truthy_eq_false_iff.mpr hv
    have hk : (k : Int) = 0 := by simpa using hzero
    omega
  | number h =>
    rw [hoption] at h
    refine ⟨fun k hk => ?_, fun hnone => absurd h (hnone _)⟩
    exact Int.ofNat.inj (Value.int.inj (Option.some.inj (h.symm.trans hk)))

end Tag

/-! ## Calls -/

namespace Options

variable {tree : FileTree} {σ : Store} {o applied : Options} {format : Text}

/-- The configuration of options is that of the options with the settings that apply. -/
theorem resolve_of_applied? (h : o.applied? tree σ = some applied) :
    (o.resolve tree σ).2 = applied.config σ := by
  unfold applied? at h
  unfold resolve
  split at h
  · cases h
  · next hsource =>
    obtain rfl := Option.some.inj h
    rw [hsource]
    rfl
  · next settings hsource =>
    rw [hsource]
    dsimp only [configFrom]
    cases hload : Settings.load tree settings with
    | error e =>
      rw [hload] at h
      cases h
    | ok loaded =>
      rw [hload] at h
      obtain rfl := Option.some.inj h
      rfl

/-- Where there is something to show, the entries decide what becomes of a call. -/
theorem config_of_truthy (hshown : σ.truthy o.shown = true)
    (hformat : σ.formatName o.format defaultFormat = .ok format) :
    o.config σ = (Tag.ofEntries σ o.output format (σ.entriesIn o.shown)).map fun tags =>
      some ⟨tags, σ.expand o.output, format, σ.truthy o.execEnabled⟩ := by
  rw [config, if_pos hshown, hformat]
  dsimp only
  cases Tag.ofEntries σ o.output format (σ.entriesIn o.shown) <;> rfl

/-- **What a configuration is made of**: the tags that the entries describe, and what is used for
what they leave open. -/
theorem config_eq_some_iff {c : Config} : o.config σ = .ok (some c) ↔
    σ.truthy o.shown = true ∧ σ.formatName o.format defaultFormat = .ok c.format ∧
      List.Forall₂ (Tag.IsFrom σ o.output c.format) (σ.entriesIn o.shown) c.tags ∧
      c.output = σ.expand o.output ∧ c.execEnabled = σ.truthy o.execEnabled := by
  constructor
  · intro h
    by_cases hshown : σ.truthy o.shown = true
    · cases hformat : σ.formatName o.format defaultFormat with
      | error e =>
        rw [config, if_pos hshown, hformat] at h
        cases h
      | ok format =>
        rw [config_of_truthy hshown hformat] at h
        obtain ⟨tags, htags, hc⟩ := Value.map_eq_ok_iff.mp h
        obtain rfl := Option.some.inj hc
        exact ⟨hshown, rfl, Tag.ofEntries_eq_ok_iff.mp htags, rfl, rfl⟩
    · rw [config, if_neg hshown] at h
      cases h
  · rintro ⟨hshown, hformat, htags, houtput, hexec⟩
    rw [config_of_truthy hshown hformat, Tag.ofEntries_eq_ok_iff.mpr htags, ← houtput, ← hexec]
    rfl

/-- An entry that describes no tag is a configuration error. -/
theorem config_of_not_isEntry (hshown : σ.Describes o.shown) (hformat : σ.Describes o.format)
    (htrue : σ.truthy o.shown = true)
    (h : ∃ entry ∈ σ.entriesIn o.shown, ¬ Tag.IsEntry σ entry) :
    ∃ e, o.config σ = .error e ∧ e.className = "ConfigError".toList := by
  obtain ⟨f, hf⟩ := hformat.exists_formatName defaultFormat
  have hconfig := config_of_truthy htrue hf
  cases htags : Tag.ofEntries σ o.output f (σ.entriesIn o.shown) with
  | error e =>
    have hfault := Tag.isConfig_of_ofEntries (fun _ => hshown.entry) htags
    rw [htags] at hconfig
    exact ⟨e, hconfig, SettingsFault.className_of_isConfig hfault⟩
  | ok tags =>
    -- each entry that has been read describes a tag
    obtain ⟨entry, hentry, hnone⟩ := h
    have hread := Tag.ofEntries_eq_ok_iff.mp htags
    have hall := forall_right_of_forall₂ (fun _ _ htag => htag.isEntry) hread.flip
    exact absurd (hall entry hentry) hnone

/-- Entries that all describe tags have a configuration. -/
theorem exists_config_of_isEntry (hshown : σ.Describes o.shown) (hformat : σ.Describes o.format)
    (htrue : σ.truthy o.shown = true) (h : ∀ entry ∈ σ.entriesIn o.shown, Tag.IsEntry σ entry) :
    ∃ c, o.config σ = .ok (some c) := by
  obtain ⟨f, hf⟩ := hformat.exists_formatName defaultFormat
  have hall : ∀ entry ∈ σ.entriesIn o.shown, ∃ tag : Tag, tag.IsFrom σ o.output f entry := by
    intro entry hentry
    exact (h entry hentry).exists_isFrom_of_describes (hshown.entry hentry) o.output f
  obtain ⟨tags, htags⟩ := Tag.exists_ofEntries hall
  rw [config_of_truthy htrue hf, htags]
  exact ⟨_, rfl⟩

section Among

variable {before after : List Value} {entry : Value} {tag : Tag} {e : SettingsFault}

/-- The first entry that is a fault is the fault of the call. -/
theorem config_of_ofEntry_error (hshown : σ.truthy o.shown = true)
    (hformat : σ.formatName o.format defaultFormat = .ok format)
    (hentries : σ.entriesIn o.shown = before ++ entry :: after)
    (hbefore : ∀ other ∈ before, ∃ tag : Tag, tag.IsFrom σ o.output format other)
    (h : Tag.ofEntry σ o.output format entry = .error e) : o.config σ = .error e := by
  have hfirst := Tag.ofEntries_eq_error_iff.mpr ⟨before, entry, after, rfl, hbefore, h⟩
  rw [config_of_truthy hshown hformat, hentries, hfirst]
  rfl

/-- Among entries that describe tags, an entry that describes a tag has it in its place. -/
theorem exists_config_of_isFrom (hshown : σ.truthy o.shown = true)
    (hformat : σ.formatName o.format defaultFormat = .ok format)
    (hentries : σ.entriesIn o.shown = before ++ entry :: after)
    (hothers : ∀ other ∈ before ++ after, ∃ tag : Tag, tag.IsFrom σ o.output format other)
    (h : tag.IsFrom σ o.output format entry) :
    ∃ c, o.config σ = .ok (some c) ∧ c.tags[before.length]? = some tag := by
  have hall : ∀ other ∈ before ++ entry :: after,
      ∃ tag : Tag, tag.IsFrom σ o.output format other := by
    intro other hother
    rcases List.mem_append.mp hother with hmem | hmem
    · exact hothers other (List.mem_append_left _ hmem)
    · rcases List.mem_cons.mp hmem with rfl | hmem
      · exact ⟨tag, h⟩
      · exact hothers other (List.mem_append_right _ hmem)
  obtain ⟨tags, htags⟩ := Tag.exists_ofEntries hall
  obtain ⟨tag', hplace, htag'⟩ := exists_getElem?_of_forall₂ (Tag.ofEntries_eq_ok_iff.mp htags)
  -- an entry describes one tag only
  obtain rfl := Except.ok.inj (h.ofEntry_eq.symm.trans htag'.ofEntry_eq)
  rw [config_of_truthy hshown hformat, hentries, htags]
  exact ⟨_, rfl, hplace⟩

end Among

/-- **Exactly the refused options make a call fail.** Take a call that shows options among entries
that all describe tags. Only options that are refused make it a configuration error. If they are
refused, the call fails, with a configuration error if the options can be spelled. If they are not
refused and their format can be spelled, the call has a configuration, whose tag in the place of the
options has the number of frames that they ask for, or none where they do not ask for a number. -/
theorem resolve_mapping {before after : List Value} {entry : Value} {options : Entries}
    (happlied : o.applied? tree σ = some applied) (hshown : σ.truthy applied.shown = true)
    (hentries : σ.entriesIn applied.shown = before ++ entry :: after)
    (hothers : ∀ other ∈ before ++ after,
      ∃ tag : Tag, tag.IsFrom σ applied.output format other)
    (hformat : σ.formatName applied.format defaultFormat = .ok format)
    (hview : σ.view entry = .dict options) :
    (∀ e, (o.resolve tree σ).2 = .error e → e.className = "ConfigError".toList →
      Tag.IsRefused σ options) ∧
    (Tag.IsRefused σ options → ∃ e, (o.resolve tree σ).2 = .error e ∧
      (σ.Describes entry → e.className = "ConfigError".toList)) ∧
    (¬ Tag.IsRefused σ options →
      σ.Describes ((Value.lookup? Settings.formatKey options).getD .none) →
      ∃ c tag, (o.resolve tree σ).2 = .ok (some c) ∧ c.tags[before.length]? = some tag ∧
        tag.IsFrom σ applied.output format entry ∧
        (∀ n : Nat, Value.lookup? Tag.depthKey options = some (.int n) → tag.depth = n) ∧
        ((∀ n : Nat, Value.lookup? Tag.depthKey options ≠ some (.int n)) → tag.depth = 0)) := by
  have hbefore : ∀ other ∈ before, ∃ tag : Tag, tag.IsFrom σ applied.output format other :=
    fun other h => hothers other (List.mem_append_left _ h)
  rw [Tag.isRefused_iff hview, resolve_of_applied? happlied]
  -- nothing in front of the options is a fault, so that reading them decides about the call
  refine ⟨?_, ?_, ?_⟩
  · intro e he hclass hdescribed
    cases hentry : Tag.ofEntry σ applied.output format entry with
    | error e' =>
      have he' := config_of_ofEntry_error hshown hformat hentries hbefore hentry
      obtain rfl := Except.error.inj (he'.symm.trans he)
      exact hdescribed.className_of_ofEntry hentry hclass
    | ok tag =>
      have htag := Tag.isFrom_of_ofEntry hentry
      obtain ⟨c, hc, -⟩ := exists_config_of_isFrom hshown hformat hentries hothers htag
      cases hc.symm.trans he
  · intro hnone
    cases hentry : Tag.ofEntry σ applied.output format entry with
    | error e =>
      refine ⟨e, config_of_ofEntry_error hshown hformat hentries hbefore hentry, ?_⟩
      intro hspelled
      exact SettingsFault.className_of_isConfig (Tag.isConfig_of_ofEntry hspelled hentry)
    | ok tag => exact absurd (Tag.isFrom_of_ofEntry hentry).isEntry hnone
  · intro hdescribed hspelled
    obtain ⟨f, hf⟩ := hspelled.exists_formatName format
    rw [← Tag.option?_of_dict hview] at hf
    obtain ⟨tag, htag⟩ := (not_not.mp hdescribed).exists_isFrom applied.output hf
    obtain ⟨c, hc, hplace⟩ := exists_config_of_isFrom hshown hformat hentries hothers htag
    obtain ⟨n, hn, hdepth⟩ := htag.depth
    obtain ⟨hnumber, hvoid⟩ := hn.eq_of_dict hview
    refine ⟨c, tag, hc, hplace, htag, ?_, ?_⟩
    · intro k hk
      rw [← hnumber k hk]
      exact hdepth
    · intro h
      rw [← Int.natCast_zero, ← hvoid h]
      exact hdepth

/-- Options between two tags: two frames are taken over, and a truth value is refused. -/
theorem resolve_mapping_mixed :
    let tree : FileTree := ⟨["W".toList], [(["W".toList], .directory)]⟩
    let options : Value → Entries := fun v =>
      [(.text "tag".toList, .text " b ".toList), (.text "trace".toList, v)]
    let o : Value → Options := fun v => { empty with
      shown := .tuple [.text "a".toList, .dict (options v),
        .dict [(.text "tag".toList, .text "c".toList)]] }
    (∃ c tag, ((o (.int 2)).resolve tree .empty).2 = .ok (some c) ∧ c.tags[1]? = some tag ∧
        tag.depth = 2) ∧
      ∃ e, ((o (.bool true)).resolve tree .empty).2 = .error e ∧
        e.className = "ConfigError".toList := by
  intro tree options o
  have hothers : ∀ other ∈ [Value.text "a".toList] ++
      [.dict [(.text "tag".toList, .text "c".toList)]],
      ∃ tag : Tag, tag.IsFrom .empty .none defaultFormat other := by
    simp only [List.singleton_append, List.forall_mem_cons, List.not_mem_nil, false_imp_iff,
      implies_true, and_true]
    exact ⟨⟨_, Tag.isFrom_of_ofEntry rfl⟩, ⟨_, Tag.isFrom_of_ofEntry rfl⟩⟩
  have hspelled : ∀ v : Value, v.plain = true → v.speakable = true →
      Store.empty.Describes (.dict (options v)) := by
    intro v hplain hspeakable
    apply Store.describes_of_isSound
    constructor
    · simp [options, Value.plain, Value.plainEntries, hplain]
    · simp [options, Value.speakable, Value.speakableEntries, hspeakable]
  -- the three parts follow from one application for all numbers of frames
  have happlied : ∀ v, (o v).applied? tree .empty = some (o v) := fun _ => rfl
  have hview : ∀ v, Store.empty.view (.dict (options v)) = .dict (options v) := fun _ => rfl
  have hall : ∀ v : Value, _ := fun v =>
    resolve_mapping (happlied v) rfl rfl hothers rfl (hview v)
  constructor
  · obtain ⟨-, -, haccepted⟩ := hall (.int 2)
    have hnot : ¬ Tag.IsRefused .empty (options (.int 2)) := by
      rintro (h | ⟨v, hv, -, hnumber⟩)
      · exact absurd (h " b ".toList rfl) (by decide)
      · exact hnumber 2 (Option.some.inj hv).symm
    obtain ⟨c, tag, hc, htag, -, hdepth, -⟩ := haccepted hnot rfl
    exact ⟨c, tag, hc, htag, hdepth 2 rfl⟩
  · obtain ⟨-, hrefused, -⟩ := hall (.bool true)
    obtain ⟨e, he, hclass⟩ := hrefused (Or.inr ⟨.bool true, rfl, nofun, nofun⟩)
    exact ⟨e, he, hclass (hspelled _ rfl rfl)⟩

/-- A truth value that asks for no frames is no number and is not refused. -/
theorem not_forall_resolve_mapping_false :
    ¬ ∀ (tree : FileTree) (σ : Store) (o : Options) (options : Entries) (v : Value),
      o.source = .ok none → o.shown = .list [.dict options] →
      Value.lookup? Tag.depthKey options = some v → (∀ n : Nat, v ≠ .int n) →
      ∃ e, (o.resolve tree σ).2 = .error e := by
  intro h
  let options : Entries :=
    [(.text "tag".toList, .text "d".toList), (.text "trace".toList, .bool false)]
  let o : Options := { empty with shown := .list [.dict options] }
  obtain ⟨e, he⟩ := h ⟨[], []⟩ .empty o options (.bool false) rfl rfl rfl nofun
  have hresolve : (o.resolve ⟨[], []⟩ .empty).2 =
      .ok (some ⟨[⟨"d".toList, 0, .none, .text "data".toList⟩], .none, "data".toList, false⟩) := rfl
  cases hresolve.symm.trans he

end Options

end Marginalia
