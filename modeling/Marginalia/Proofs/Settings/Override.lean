import Marginalia.Proofs.Settings.Faults
import Marginalia.Proofs.Settings.FixedPoint
import Marginalia.Proofs.Settings.Sources

/-!
# What settings override

Settings speak for the caller: where they hold a member for the tags, the destination or the format,
the argument of the caller makes no difference. This is so only for members that count as true. A
member that counts as false is as good as none, so that settings cannot take back what the caller
asks for.

## Main definitions

* `Value.IsVoid`: the values that count as false
* `Argument`: the arguments of the caller that settings speak for

## Main results

* `Store.truthy_eq_false_iff`: only void values count as false
* `Options.override_congr`: what overriding depends on
* `Options.resolve_override`: which members override an argument
* `Options.not_forall_resolve_override_null`: a member that does not
-/

namespace Marginalia

/-! ## Void values -/

/-- The values that count as false: no value, zeros and whatever is empty. -/
inductive Value.IsVoid : Value → Prop
  | none : IsVoid .none
  | false : IsVoid (.bool false)
  | zero : IsVoid (.int 0)
  | floatZero {x : Binary64} (h : x.isZero = true) : IsVoid (.float x)
  | text : IsVoid (.text [])
  | bytes : IsVoid (.bytes [])
  | list : IsVoid (.list [])
  | tuple : IsVoid (.tuple [])
  | set : IsVoid (.set [])
  | dict : IsVoid (.dict [])

namespace Store

variable {σ : Store} {v : Value}

/-- **Only void values count as false.** -/
theorem truthy_eq_false_iff : σ.truthy v = false ↔ (σ.view v).IsVoid := by
  unfold truthy
  generalize σ.view v = w
  constructor
  · intro h
    cases w with
    | none => exact .none
    | bool b =>
      obtain rfl : b = false := h
      exact .false
    | int i =>
      obtain rfl : i = 0 := by simpa using h
      exact .zero
    | float x => exact .floatZero (by simpa using h)
    | text s =>
      obtain rfl : s = [] := by simpa using h
      exact .text
    | bytes bs =>
      obtain rfl : bs = [] := by simpa using h
      exact .bytes
    | list items =>
      obtain rfl : items = [] := by simpa using h
      exact .list
    | tuple items =>
      obtain rfl : items = [] := by simpa using h
      exact .tuple
    | set items =>
      obtain rfl : items = [] := by simpa using h
      exact .set
    | dict entries =>
      obtain rfl : entries = [] := by simpa using h
      exact .dict
    | foreign _ | shared _ _ => cases h
  · intro h
    cases h with
    | floatZero hx => simpa using hx
    | _ => rfl

theorem truthy_eq_true_iff : σ.truthy v = true ↔ ¬ (σ.view v).IsVoid := by
  rw [← truthy_eq_false_iff, Bool.not_eq_false]

end Store

/-- Settings that hold only what to show have a JSON form if that has one. -/
theorem Settings.plain_shown {v : Value} (h : Json.Plain v) :
    Json.Plain (.dict [(.text Settings.showKey, v)]) := by
  refine Json.plain_dict [Settings.showKey] rfl (by decide) ?_
  rw [List.forall_mem_singleton]
  exact h

/-- So do settings that hold what to show and a destination. -/
theorem Settings.plain_shown_output {v w : Value} (hv : Json.Plain v) (hw : Json.Plain w) :
    Json.Plain (.dict [(.text Settings.showKey, v), (.text Settings.outputKey, w)]) := by
  refine Json.plain_dict [Settings.showKey, Settings.outputKey] rfl (by decide) ?_
  rw [List.forall_mem_cons, List.forall_mem_singleton]
  exact ⟨hv, hw⟩

/-! ## Arguments -/

/-- The arguments of the caller that settings speak for. -/
inductive Argument where
  | shown
  | output
  | format
  deriving DecidableEq, Repr

namespace Argument

/-- The member of settings for the argument. -/
def key : Argument → Text
  | shown => Settings.showKey
  | output => Settings.outputKey
  | format => Settings.formatKey

/-- What the caller asks for. -/
def get (o : Options) : Argument → Value
  | shown => o.shown
  | output => o.output
  | format => o.format

/-- The options of a caller who asks for something else. -/
def put (o : Options) (v : Value) : Argument → Options
  | shown => { o with shown := v }
  | output => { o with output := v }
  | format => { o with format := v }

variable {a b : Argument} {o : Options} {v : Value}

@[simp] theorem get_put_self (a : Argument) (o : Options) (v : Value) : a.get (a.put o v) = v := by
  cases a <;> rfl

theorem get_put_of_ne (h : b ≠ a) : b.get (a.put o v) = b.get o := by
  cases a <;> cases b <;> first | rfl | exact absurd rfl h

@[simp] theorem source_put (a : Argument) (o : Options) (v : Value) :
    (a.put o v).source = o.source := by
  cases a <;> rfl

@[simp] theorem execEnabled_put (a : Argument) (o : Options) (v : Value) :
    (a.put o v).execEnabled = o.execEnabled := by
  cases a <;> rfl

end Argument

namespace Options

variable {tree tree' : FileTree} {σ : Store} {o o' : Options} {settings settings' : Text}
  {loaded loaded' : Entries} {a : Argument} {v : Value}

/-- An argument after the settings have been applied. -/
theorem get_override (a : Argument) (o : Options) (loaded : Entries) :
    a.get (o.override σ loaded) = overridden σ loaded a.key (a.get o) := by
  cases a <;> rfl

/-- **What overriding depends on**: every argument is what the settings make of it. -/
theorem override_congr (hexec : o'.execEnabled = o.execEnabled)
    (h : ∀ a : Argument,
      overridden σ loaded' a.key (a.get o') = overridden σ loaded a.key (a.get o)) :
    (o'.override σ loaded').config σ = (o.override σ loaded).config σ :=
  config_congr (h .shown) (h .output) (h .format) hexec

/-- Options that ask for settings come to what is left when the settings have been applied. -/
theorem resolve_of_loaded (hsource : o.source = .ok (some settings))
    (hload : Settings.load tree settings = .ok loaded) :
    o.resolve tree σ = ([], (o.override σ loaded).config σ) := by
  rw [resolve, hsource]
  dsimp only [configFrom]
  rw [hload]

end Options

/-! ## Overriding -/

section Overridden

variable {σ : Store} {loaded : Entries} {key : Text} {v : Value}

/-- A member that counts as true takes the place of any argument. -/
theorem overridden_of_not_isVoid (h : Value.lookup? key loaded = some v)
    (hv : ¬ (σ.view v).IsVoid) (w : Value) : overridden σ loaded key w = v := by
  rw [overridden, h]
  exact if_pos (Store.truthy_eq_true_iff.mpr hv)

/-- A void member leaves the argument as it is. -/
theorem overridden_of_isVoid (h : Value.lookup? key loaded = some v) (hv : (σ.view v).IsVoid)
    (w : Value) : overridden σ loaded key w = w := by
  rw [overridden, h]
  exact if_neg (by simp [Store.truthy_eq_false_iff.mpr hv])

theorem overridden_of_eq_none (h : Value.lookup? key loaded = none) (w : Value) :
    overridden σ loaded key w = w := by
  rw [overridden, h]

theorem overridden_congr {loaded' : Entries}
    (h : Value.lookup? key loaded' = Value.lookup? key loaded) (w : Value) :
    overridden σ loaded' key w = overridden σ loaded key w := by
  rw [overridden, overridden, h]

/-- What has been loaded is sound. -/
theorem isSound_of_load {tree : FileTree} {settings : Text}
    (hload : Settings.load tree settings = .ok loaded) (h : Value.lookup? key loaded = some v) :
    Json.IsSound v := by
  have hspec := Settings.load_spec tree settings
  rw [hload] at hspec
  exact hspec.2 _ (Value.mem_of_lookup? h)

/-- What has been loaded is seen as it is. -/
theorem view_of_load {tree : FileTree} {settings : Text}
    (hload : Settings.load tree settings = .ok loaded) (h : Value.lookup? key loaded = some v) :
    σ.view v = v :=
  σ.view_plain (isSound_of_load hload h).1

end Overridden

namespace Options

variable {tree tree' : FileTree} {σ : Store} {o o' : Options} {settings settings' : Text}
  {loaded loaded' : Entries} {a : Argument} {v : Value}

/-- **Which members override an argument.** Take settings, from wherever they come, with a member
for an argument of the caller. If the member is not void, the argument makes no difference. If it is
void, it is as good as none: the result is that of any settings that have no such member and the
same other ones, so that the argument of the caller stands. -/
theorem resolve_override (σ : Store) (hsource : o.source = .ok (some settings))
    (hload : Settings.load tree settings = .ok loaded)
    (hmember : Value.lookup? a.key loaded = some v) :
    (¬ v.IsVoid → ∀ w w' : Value,
      (a.put o w).resolve tree σ = (a.put o w').resolve tree σ) ∧
    (v.IsVoid → ∀ (w : Value) (tree' : FileTree) (o' : Options) (settings' : Text)
      (loaded' : Entries), o'.source = .ok (some settings') →
      Settings.load tree' settings' = .ok loaded' → Value.lookup? a.key loaded' = none →
      (∀ b : Argument, b ≠ a → Value.lookup? b.key loaded' = Value.lookup? b.key loaded) →
      (∀ b : Argument, b.get o' = b.get (a.put o w)) → o'.execEnabled = o.execEnabled →
      (a.put o w).resolve tree σ = o'.resolve tree' σ) := by
  have hview : σ.view v = v := view_of_load hload hmember
  have hput : ∀ w, (a.put o w).resolve tree σ = ([], ((a.put o w).override σ loaded).config σ) := by
    intro w
    apply resolve_of_loaded _ hload
    rw [Argument.source_put, hsource]
  constructor
  · intro hv w w'
    rw [hput, hput]
    refine congrArg (Prod.mk []) (override_congr (by simp) fun b => ?_)
    by_cases hb : b = a
    · -- whatever the argument is, the member takes its place
      subst hb
      have hoverridden := overridden_of_not_isVoid (σ := σ) hmember (by rwa [hview])
      rw [hoverridden, hoverridden]
    · rw [Argument.get_put_of_ne hb, Argument.get_put_of_ne hb]
  · intro hv w tree' o' settings' loaded' hsource' hload' hnone hothers hget hexec
    rw [hput, resolve_of_loaded hsource' hload']
    refine congrArg (Prod.mk []) (override_congr (by simp [hexec]) fun b => ?_)
    rw [hget]
    by_cases hb : b = a
    · -- the argument stands, with the void member and without it
      subst hb
      rw [overridden_of_isVoid hmember (by rwa [hview]), overridden_of_eq_none hnone]
    · exact overridden_congr (hothers b hb).symm _

/-- The tags of the settings stand whatever the caller asks for, and the destination of the caller
stands as it would beside settings that do not mention one. -/
theorem resolve_override_mixed :
    let tree : FileTree := ⟨["W".toList], [(["W".toList], .directory)]⟩
    let settings := "\x7b\n   \"show\": \"a\",\n   \"output\": null\n\x7d".toList
    let brief := "\x7b\n   \"show\": \"a\"\n\x7d".toList
    let o : Options := { empty with settings := some settings, output := .text "log".toList }
    let held : Options := { empty with
      output := .text "log".toList, variableName := some "V".toList
      environment := [("V".toList, brief)] }
    (∀ w w' : Value, (Argument.shown.put o w).resolve tree .empty =
        (Argument.shown.put o w').resolve tree .empty) ∧
      o.resolve tree .empty = held.resolve tree .empty := by
  intro tree settings brief o held
  let shown : Value × Value := (.text Settings.showKey, .text "a".toList)
  let output : Value × Value := (.text Settings.outputKey, .none)
  have hload : Settings.load tree settings = .ok [shown, output] := by
    have hplain := Settings.plain_shown_output (Json.plain_text "a".toList) Json.plain_none
    exact Settings.load_of_write hplain rfl (Or.inl rfl)
  have hbrief : Settings.load tree brief = .ok [shown] :=
    Settings.load_of_write (Settings.plain_shown (Json.plain_text _)) rfl (Or.inl rfl)
  constructor
  · -- a member that is not void
    have hshown := resolve_override (o := o) (a := .shown) .empty rfl hload rfl
    refine hshown.1 fun h => ?_
    cases h
  · -- a void one
    have houtput := resolve_override (o := o) (a := .output) .empty rfl hload rfl
    refine houtput.2 .none (.text "log".toList) tree held brief _ rfl hbrief rfl ?_ ?_ rfl
    · intro b hb
      cases b with
      | output => exact absurd rfl hb
      | shown | format => rfl
    · intro b
      cases b <;> rfl

/-- A destination that the settings give as none does not override that of the caller. -/
theorem not_forall_resolve_override_null :
    ¬ ∀ (tree : FileTree) (σ : Store) (o : Options) (settings : Text) (loaded : Entries)
      (a : Argument) (v : Value), o.source = .ok (some settings) →
      Settings.load tree settings = .ok loaded → Value.lookup? a.key loaded = some v →
      ∀ w w' : Value, (a.put o w).resolve tree σ = (a.put o w').resolve tree σ := by
  intro h
  let tree : FileTree := ⟨["W".toList], [(["W".toList], .directory)]⟩
  let settings := "\x7b\n   \"show\": \"d\",\n   \"output\": null\n\x7d".toList
  let loaded : Entries :=
    [(.text Settings.showKey, .text "d".toList), (.text Settings.outputKey, .none)]
  let o : Value → Options := fun output => { empty with settings := some settings, output }
  let c : Value → Config := fun output =>
    ⟨[⟨"d".toList, 0, output, .text "data".toList⟩], output, "data".toList, false⟩
  have hload : Settings.load tree settings = .ok loaded := by
    have hplain := Settings.plain_shown_output (Json.plain_text "d".toList) Json.plain_none
    exact Settings.load_of_write hplain rfl (Or.inl rfl)
  have hnone : (o .none).resolve tree .empty = ([], .ok (some (c .none))) :=
    (resolve_of_loaded (o := o .none) rfl hload).trans rfl
  have htext : (o (.text "a.log".toList)).resolve tree .empty =
      ([], .ok (some (c (.text "a.log".toList)))) :=
    (resolve_of_loaded (o := o (.text "a.log".toList)) rfl hload).trans rfl
  have hsame := h tree .empty (o .none) settings loaded .output .none rfl hload rfl .none
    (.text "a.log".toList)
  -- one of them writes to the error stream, the other one to a file
  cases (hnone.symm.trans hsame).trans htext

end Options

end Marginalia
