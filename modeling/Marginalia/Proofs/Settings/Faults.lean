import Marginalia.Proofs.Json.Soundness
import Marginalia.Proofs.Settings.Reading
import Marginalia.Proofs.Value.Reach

/-!
# Faults of settings

Settings that cannot be used are to be reported as configuration errors. They are, but for faults
that escape as what they are: that of a path which holds the character of code point zero, of a file
that is not UTF-8, and of a JSON text with an integer of too many digits. Where a path has bytes in
UTF-8 and nesting has no limit, as here, whatever else is wrong with the settings or with the
options is a configuration error, provided that the options can be described.

## Main definitions

* `Settings.Escapes`: the faults that are no configuration errors
* `Store.Describes`: values whose trees can be spelled

## Main results

* `Settings.load_spec`: what loading settings comes to
* `Settings.Escapes.load_eq`: a fault that escapes is no configuration error
* `Options.isConfig_of_config`: options that can be described fail with configuration errors only
* `Options.faults_of_settings`: what loading settings and resolving options come to
* `Options.not_forall_isConfig_undecodable`: a fault of settings that is no configuration error
-/

namespace Marginalia

namespace SettingsFault

/-- A fault of the settings themselves is a configuration error. -/
theorem className_of_isConfig {e : SettingsFault} (h : e.isConfig = true) :
    e.className = "ConfigError".toList := by
  cases e with
  | file _ | tooLong _ | value _ => cases h
  | _ => rfl

end SettingsFault

/-! ## Loading -/

/-- Reading a file is refused over its path only. -/
theorem FileTree.read_error {tree : FileTree} {path : Text} {e : FileFault}
    (h : tree.read path = .error e) :
    e = .nullByte ∧ hasNull path = true ∨ ∃ cause, e = .refused cause path := by
  unfold read at h
  split at h
  · next hnull => exact Or.inl ⟨(Except.error.inj h).symm, hnull⟩
  · right
    split at h
    · exact ⟨_, (Except.error.inj h).symm⟩
    split at h
    · exact ⟨_, (Except.error.inj h).symm⟩
    split at h
    · exact ⟨_, (Except.error.inj h).symm⟩
    · cases h

namespace Settings

variable {tree : FileTree} {settings s : Text} {e : SettingsFault} {loaded : Entries}

/-- The faults that are no configuration errors, as far as paths have bytes in UTF-8 and nesting has
no limit. -/
inductive Escapes (tree : FileTree) (settings : Text) : SettingsFault → Prop
  /-- The path holds the character of code point zero. -/
  | nullByte (hpath : isLiteral settings = false) (hnull : FileTree.hasNull settings = true) :
    Escapes tree settings (.file .nullByte)
  /-- The file is not UTF-8. -/
  | undecodable {content : Bytes} {broken : Utf8.Broken} (hpath : isLiteral settings = false)
    (hread : tree.read settings = .ok content) (hbroken : Utf8.decode content = .error broken) :
    Escapes tree settings (.file (.undecodable broken))
  /-- Reading the text meets an integer of too many digits, which stand in the text. -/
  | tooLong {s : Text} {n : Nat} (htext : textOf tree settings = .ok s)
    (hread : Json.read s = .error (.tooLong n))
    (hdigits : Digits.maxDigits < n ∧ Json.HasDigits n s) : Escapes tree settings (.tooLong n)

theorem textOf_error (h : textOf tree settings = .error e) :
    e.isConfig = true ∨ Escapes tree settings e := by
  unfold textOf at h
  split at h
  · cases h
  next hpath =>
  have hpath : isLiteral settings = false := by simpa using hpath
  -- the settings are a path: reading the file and decoding it may fail
  cases hread : tree.read settings with
  | error fault =>
    rw [FileTree.readText, hread] at h
    dsimp only at h
    rcases FileTree.read_error hread with ⟨rfl, hnull⟩ | ⟨cause, rfl⟩
    · obtain rfl := Except.error.inj h
      exact Or.inr (.nullByte hpath hnull)
    · obtain rfl := Except.error.inj h
      exact Or.inl rfl
  | ok content =>
    rw [FileTree.readText, hread] at h
    dsimp only at h
    cases hdecode : Utf8.decode content with
    | error broken =>
      rw [hdecode] at h
      obtain rfl := Except.error.inj h
      exact Or.inr (.undecodable hpath hread hdecode)
    | ok text =>
      rw [hdecode] at h
      cases h

/-- **What loading settings comes to**: recognised members in the order of their keys, each with a
value that can be spelled, or a configuration error, or a fault that escapes. -/
theorem load_spec (tree : FileTree) (settings : Text) :
    match load tree settings with
    | .ok loaded => (loaded.map Prod.fst).Sublist (keys.map .text) ∧
        ∀ member ∈ loaded, Json.IsSound member.2
    | .error e => e.isConfig = true ∨ Escapes tree settings e := by
  unfold load
  cases htext : textOf tree settings with
  | error e => exact textOf_error htext
  | ok s =>
    -- once there is a text, loading is what decoding comes to
    show match decode s with
      | .ok loaded => (loaded.map Prod.fst).Sublist (keys.map .text) ∧
          ∀ member ∈ loaded, Json.IsSound member.2
      | .error e => e.isConfig = true ∨ Escapes tree settings e
    unfold decode
    cases hread : Json.read s with
    | error fault =>
      cases fault with
      | malformed complaint pos => exact Or.inl rfl
      | tooLong n =>
        exact Or.inr (.tooLong htext hread (Json.hasDigits_of_read hread))
    | ok v =>
      cases v with
      | dict entries =>
        refine ⟨sublist_recognised entries, fun member hmember => ?_⟩
        obtain ⟨key, -, hkey⟩ := List.mem_filterMap.mp hmember
        obtain ⟨w, hw, rfl⟩ := Option.map_eq_some_iff.mp hkey
        exact Json.isSound_of_mem (Json.isSound_of_read hread) (Value.mem_of_lookup? hw)
      | _ => exact Or.inl rfl

/-- **A fault that escapes** ends the loading, and it is no configuration error. -/
theorem Escapes.load_eq (h : Escapes tree settings e) :
    load tree settings = .error e ∧ e.className ≠ "ConfigError".toList := by
  cases h with
  | nullByte hpath hnull =>
    constructor
    · simp [load, textOf, hpath, FileTree.readText, FileTree.read, hnull]
    · exact of_decide_eq_true rfl
  | undecodable hpath hread hbroken =>
    constructor
    · simp [load, textOf, hpath, FileTree.readText, hread, hbroken]
    · exact of_decide_eq_true rfl
  | tooLong htext hread _ =>
    constructor
    · simp [load, htext, decode, hread]
    · exact of_decide_eq_true rfl

end Settings

/-! ## Descriptions -/

namespace Store

variable {σ : Store} {v : Value}

/-- The tree of the value can be spelled. -/
def Describes (σ : Store) (v : Value) : Prop := (σ.expand v).speakable = true

theorem describes_iff : σ.Describes v ↔ ∀ w : Value, σ.Reaches v w → w.speaks = true :=
  σ.speakable_expand_iff v

theorem Describes.member {u : Value} (h : σ.Describes v) (hu : u ∈ v.members) : σ.Describes u := by
  rw [describes_iff] at h ⊢
  intro w hw
  exact h w (hw.member hu)

/-- What a reference leads to is described with it. -/
theorem Describes.view (h : σ.Describes v) : σ.Describes (σ.view v) := by
  unfold Store.view
  split
  · next kind address =>
    cases hget : σ.get? address with
    | none => exact h
    | some u =>
      rw [describes_iff] at h ⊢
      intro w hw
      exact h w (.enter .self nofun hget hw)
  · exact h

theorem Describes.exists_literal (h : σ.Describes v) : ∃ s, (σ.expand v).literal = .ok s := by
  have hsucceeds : Value.succeeds (σ.expand v).literal = true := by
    rw [Value.literal, Value.succeeds_map, Value.shape_ok_iff]
    exact h
  cases hl : (σ.expand v).literal with
  | ok s => exact ⟨s, rfl⟩
  | error e => simp [hl] at hsucceeds

theorem describes_of_isSound (h : Json.IsSound v) : σ.Describes v := by
  rw [Describes, σ.expand_plain h.1]
  exact h.2

theorem Describes.getD {options : Entries} (h : σ.Describes (.dict options)) (hv : σ.Describes v)
    (key : Text) : σ.Describes ((Value.lookup? key options).getD v) := by
  cases hlookup : Value.lookup? key options with
  | none => exact hv
  | some w =>
    apply h.member
    exact List.mem_flatMap.mpr ⟨_, Value.mem_of_lookup? hlookup, by simp⟩

/-- Each of the entries that a value lists is described with it. -/
theorem Describes.entry {entry : Value} (h : σ.Describes v) (he : entry ∈ σ.entriesIn v) :
    σ.Describes entry := by
  have hview := h.view
  unfold entriesIn at he
  split at he
  · next items heq =>
    rw [heq] at hview
    exact hview.member he
  · next items heq =>
    rw [heq] at hview
    exact hview.member he
  · obtain rfl := List.mem_singleton.mp he
    exact h

theorem Describes.isConfig_faultOf (h : σ.Describes v) {f : Text → SettingsFault}
    (hf : ∀ s, (f s).isConfig = true) : (σ.faultOf f v).isConfig = true := by
  obtain ⟨s, hs⟩ := h.exists_literal
  rw [faultOf, hs]
  exact hf s

theorem Describes.exists_formatName (h : σ.Describes v) (other : Text) :
    ∃ format, σ.formatName v other = .ok format := by
  obtain ⟨s, hs⟩ := h.exists_literal
  unfold formatName
  split
  · unfold textOf
    rw [hs]
    split <;> exact ⟨_, rfl⟩
  · exact ⟨other, rfl⟩

end Store

/-! ## Resolving -/

section Resolving

variable {tree : FileTree} {σ : Store} {o : Options} {e : SettingsFault}

namespace Tag

variable {output : Value} {format : Text}

/-- Options that can be described fail with a configuration error only. -/
theorem isConfig_of_ofOptions {options : Entries} (h : σ.Describes (.dict options))
    (he : ofOptions σ output format options = .error e) : e.isConfig = true := by
  have hasked : σ.Describes ((Value.lookup? depthKey options).getD (.int 0)) :=
    h.getD (Store.describes_of_isSound ⟨rfl, rfl⟩) depthKey
  have hformat : σ.Describes ((Value.lookup? Settings.formatKey options).getD .none) :=
    h.getD (Store.describes_of_isSound ⟨rfl, rfl⟩) Settings.formatKey
  unfold ofOptions at he
  split at he
  · obtain rfl := Except.error.inj he
    exact h.isConfig_faultOf fun _ => rfl
  dsimp only at he
  split at he
  · obtain rfl := Except.error.inj he
    exact hasked.isConfig_faultOf fun _ => rfl
  · obtain ⟨f, hf⟩ := hformat.exists_formatName format
    rw [hf] at he
    cases he

/-- An entry that can be described fails with a configuration error only. -/
theorem isConfig_of_ofEntry {entry : Value} (h : σ.Describes entry)
    (he : ofEntry σ output format entry = .error e) : e.isConfig = true := by
  have hview := h.view
  unfold ofEntry at he
  split at he
  · unfold ofName at he
    split at he
    · obtain rfl := Except.error.inj he
      rfl
    · cases he
  · next options heq =>
    rw [heq] at hview
    exact isConfig_of_ofOptions hview he
  · obtain rfl := Except.error.inj he
    exact h.isConfig_faultOf fun _ => rfl

/-- The first fault of some entries is a configuration error. -/
theorem isConfig_of_ofEntries {entries : List Value} (h : ∀ entry ∈ entries, σ.Describes entry)
    (he : ofEntries σ output format entries = .error e) : e.isConfig = true := by
  induction entries with
  | nil => cases he
  | cons entry rest ih =>
    obtain ⟨hentry, hrest⟩ := List.forall_mem_cons.mp h
    rw [ofEntries] at he
    split at he
    · next hfault =>
      obtain rfl := Except.error.inj he
      exact isConfig_of_ofEntry hentry hfault
    · cases htags : ofEntries σ output format rest with
      | error e' =>
        rw [htags] at he
        obtain rfl := Except.error.inj he
        exact ih hrest htags
      | ok tags =>
        rw [htags] at he
        cases he

end Tag

namespace Options

/-- **Options that can be described** fail with configuration errors only. -/
theorem isConfig_of_config (hshown : σ.Describes o.shown) (hformat : σ.Describes o.format)
    (he : o.config σ = .error e) : e.isConfig = true := by
  obtain ⟨format, hname⟩ := hformat.exists_formatName defaultFormat
  unfold config at he
  rw [hname] at he
  dsimp only at he
  split at he
  · split at he
    · next hfault =>
      obtain rfl := Except.error.inj he
      exact Tag.isConfig_of_ofEntries (fun entry hentry => hshown.entry hentry) hfault
    · cases he
  · cases he

/-- What the settings put in the place of a value is described if the settings are sound. -/
theorem describes_overridden {overrides : Entries} {v : Value}
    (h : ∀ member ∈ overrides, Json.IsSound member.2) (hv : σ.Describes v) (key : Text) :
    σ.Describes (overridden σ overrides key v) := by
  unfold overridden
  split
  · next w hlookup =>
    split
    · exact Store.describes_of_isSound (h _ (Value.mem_of_lookup? hlookup))
    · exact hv
  · exact hv

/-- **What resolving options comes to**, if the tags and the format asked for can be described: a
configuration or none, a configuration error, or a fault that escapes from the settings that
apply. -/
theorem resolve_spec (tree : FileTree) (hshown : σ.Describes o.shown)
    (hformat : σ.Describes o.format) (he : (o.resolve tree σ).2 = .error e) :
    e.isConfig = true ∨ ∃ settings, o.source = .ok (some settings) ∧
      Settings.Escapes tree settings e := by
  unfold resolve at he
  split at he
  · cases he
  next applied hsource =>
  cases applied with
  | none => exact Or.inl (isConfig_of_config hshown hformat he)
  -- what the settings override is sound, and the rest is described as before
  | some settings =>
    have hload := Settings.load_spec tree settings
    dsimp only [configFrom] at he
    split at he
    · next fault hfault =>
      obtain rfl := Except.error.inj he
      rw [hfault] at hload
      exact hload.imp_right fun hescapes => ⟨settings, hsource, hescapes⟩
    · next overrides hoverrides =>
      rw [hoverrides] at hload
      left
      apply isConfig_of_config _ _ he
      · exact describes_overridden hload.2 hshown Settings.showKey
      · exact describes_overridden hload.2 hformat Settings.formatKey

/-- **The faults of settings.** Loading settings gives recognised members in the order of their
keys, or fails with a configuration error, or fails with one of the faults that escape: a path that
holds the character of code point zero, a file that is not UTF-8, an integer of too many digits.
Each of these does escape. Resolving options whose tags and format can be described gives a
configuration or none, or fails with a configuration error, or lets a fault escape from the settings
that apply. -/
theorem faults_of_settings (tree : FileTree) (σ : Store) :
    (∀ settings, (∃ loaded, Settings.load tree settings = .ok loaded ∧
        (loaded.map Prod.fst).Sublist (Settings.keys.map .text)) ∨
      ∃ e, Settings.load tree settings = .error e ∧
        (e.className = "ConfigError".toList ∨ Settings.Escapes tree settings e)) ∧
    (∀ settings e, Settings.Escapes tree settings e →
      Settings.load tree settings = .error e ∧ e.className ≠ "ConfigError".toList) ∧
    ∀ o : Options, σ.Describes o.shown → σ.Describes o.format →
      (∃ c, (o.resolve tree σ).2 = .ok c) ∨
      ∃ e, (o.resolve tree σ).2 = .error e ∧ (e.className = "ConfigError".toList ∨
        ∃ settings, o.source = .ok (some settings) ∧ Settings.Escapes tree settings e) := by
  refine ⟨?_, ?_, ?_⟩
  · -- faults that are configuration errors have their class
    intro settings
    have hload := Settings.load_spec tree settings
    cases hs : Settings.load tree settings with
    | ok loaded =>
      rw [hs] at hload
      exact Or.inl ⟨loaded, rfl, hload.1⟩
    | error e =>
      rw [hs] at hload
      exact Or.inr ⟨e, rfl, hload.imp_left SettingsFault.className_of_isConfig⟩
  · intro settings e h
    exact h.load_eq
  · intro o hshown hformat
    cases hr : (o.resolve tree σ).2 with
    | ok c => exact Or.inl ⟨c, rfl⟩
    | error e =>
      have hspec := resolve_spec tree hshown hformat hr
      exact Or.inr ⟨e, rfl, hspec.imp_left SettingsFault.className_of_isConfig⟩

/-- A tag of the caller has no name, which is a configuration error. A path that holds the character
of code point zero fails before that is seen, and its fault escapes. -/
theorem faults_of_settings_unnamed :
    let tree : FileTree := ⟨["W".toList], [(["W".toList], .directory)]⟩
    let o : Options := { empty with shown := .dict [(.text "trace".toList, .int 1)] }
    (∃ e, o.config .empty = .error e) ∧ Settings.Escapes tree ['a', Char.ofNat 0] (.file .nullByte) ∧
      Settings.load tree ['a', Char.ofNat 0] = .error (.file .nullByte) ∧
      ∀ settings, (∃ c, (({ o with settings }).resolve tree .empty).2 = .ok c) ∨
        ∃ e, (({ o with settings }).resolve tree .empty).2 = .error e ∧
          (e.className = "ConfigError".toList ∨ ∃ s, settings = some s ∧
            Settings.Escapes tree s e) := by
  intro tree o
  have hshown : Store.empty.Describes o.shown := by
    unfold Store.Describes
    decide
  have hescapes : Settings.Escapes tree ['a', Char.ofNat 0] (.file .nullByte) :=
    .nullByte (by decide) (by decide)
  refine ⟨⟨_, rfl⟩, hescapes, ((faults_of_settings tree .empty).2.1 _ _ hescapes).1, ?_⟩
  intro settings
  have hsource : ({ o with settings } : Options).source = .ok settings := rfl
  have hall := (faults_of_settings tree .empty).2.2 { o with settings } hshown rfl
  rw [hsource] at hall
  simpa only [Except.ok.injEq] using hall

/-- A file that is not UTF-8 is a fault of settings that is no configuration error. -/
theorem not_forall_isConfig_undecodable :
    ¬ ∀ (tree : FileTree) (settings : Text),
      (∃ loaded, Settings.load tree settings = .ok loaded ∧
        (loaded.map Prod.fst).Sublist (Settings.keys.map .text)) ∨
      ∃ e, Settings.load tree settings = .error e ∧ e.className = "ConfigError".toList := by
  intro h
  let tree : FileTree := ⟨["W".toList], [(["W".toList], .directory),
    (["W".toList, "s.json".toList], .file [0xff])]⟩
  have hload : Settings.load tree "s.json".toList = .error (.file (.undecodable _)) := rfl
  rcases h tree "s.json".toList with ⟨loaded, hloaded, -⟩ | ⟨e, he, hname⟩
  · cases hloaded.symm.trans hload
  · obtain rfl := Except.error.inj (he.symm.trans hload)
    exact absurd hname (of_decide_eq_true rfl)

end Options

end Resolving

end Marginalia
