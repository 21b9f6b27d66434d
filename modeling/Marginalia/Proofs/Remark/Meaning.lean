import Marginalia.Proofs.Program.Code
import Marginalia.Proofs.Remark.Programs
import Marginalia.Proofs.Remark.Simulation

/-!
# The meaning of a rewritten text

A text that has been rewritten does what the text does that performs its remarks itself: it binds
the same names to the same values, writes the same and stops with the same fault.

## Main definitions

* `Direct.faithful`: the comparison of a rewritten text with the program of its own lines

## Main results

* `Outlets.deliverTo_named`: destinations and formats that are names
* `Direct.faithful_holds`: the debug calls of a remark do what performing it does
* `Outlets.run_eq_runDirect`: rewriting preserves meaning
-/

namespace Marginalia

open Program Remark

/-! ## Names as destinations and formats -/

/-- The value that a name is written as. -/
def Value.nameValue : Value → Value
  | .text s => .text s
  | _ => .none

theorem Value.nameExpr_eq (v : Value) : v.nameExpr = .literal v.nameValue := by
  cases v <;> rfl

namespace Store

theorem target_nameValue (σ : Store) (v : Value) : σ.target v.nameValue = .ok v.named? := by
  cases v with
  | text s =>
    cases s with
    | nil => rfl
    | cons c s => rfl
  | _ => rfl

theorem format_nameValue (σ : Store) (v : Value) : σ.format v.nameValue = .ok v.named? := by
  cases v with
  | text s =>
    cases s with
    | nil => rfl
    | cons c s => rfl
  | _ => rfl

end Store

namespace Outlets

/-- **Destinations and formats that are names** are known before a text is run. -/
theorem deliverTo_named (o : Outlets) (σ : Store) (target format : Value) (content : Content) :
    o.deliverTo σ target.nameValue format.nameValue content =
      o.deliver σ target.named? format.named? content := by
  rw [deliverTo, σ.format_nameValue, σ.target_nameValue]

theorem deliverTo_named_none (o : Outlets) (σ : Store) (target : Value) (content : Content) :
    o.deliverTo σ target.nameValue .none content = o.deliver σ target.named? none content :=
  deliverTo_named o σ target .none content

theorem terminated_snoc {s : Text} (h : s.OneLine) : terminated (s ++ ['\n']) = terminated s := by
  have hs : s.getLast? ≠ some '\n' := fun he =>
    h.notMem_lf (List.mem_of_getLast? he)
  rw [terminated, terminated, if_pos (by simp), if_neg hs]

/-- A message on one line is written with a line feed at its end. -/
theorem deliver_message (o : Outlets) (σ : Store) (destination : Destination) {s : Text}
    (h : s.OneLine) : o.deliver σ destination none (.message s) =
      o.send [] destination (s ++ ['\n']) := by
  have hwrite : o.write destination (s ++ ['\n']) = o.write destination s := by
    unfold write writeStream FileTree.deliver
    rw [terminated_snoc h]
  have hdeliver : o.deliver σ destination none (.message s) = o.send [] destination s := rfl
  rw [hdeliver, send, send, hwrite]

end Outlets

namespace Direct

variable {B : Bridge} {m m' : Machine} {file : Text} {scope : Scope}

/-! ## Deliveries -/

/-- The machine that a delivery leaves. -/
def delivered (m : Machine) (d : Delivery) : Machine :=
  { m with outlets := d.outlets, notices := m.notices ++ d.notices }

theorem Mirrors.delivered (h : Mirrors B m m') {d d' : Delivery}
    (hw : B.world d.outlets (m.notices ++ d.notices) d'.outlets (m'.notices ++ d'.notices)) :
    Mirrors B (delivered m d) (delivered m' d') :=
  { h with world := hw }

theorem accept_eq (m : Machine) (d : Delivery) :
    m.accept d = (delivered m d,
      match d.result with
      | .ok _ => .ok ()
      | .error e => .error (.delivery e)) := by
  unfold Machine.accept
  cases d.result <;> rfl

/-- What the second call of a remark shows. -/
theorem shownBy_traceCall (m : Machine) (file : Text) (sites : List Site) (scope : Scope)
    (r : Remark) : m.shownBy file sites scope r.traceCall =
      .ok (m.store, r.tag.target.nameValue, r.tag.format.nameValue,
        .table (Trace.payload (Trace.collect (m.frames file sites) r.tag.depth 0))) := by
  rw [Remark.traceCall, Value.nameExpr_eq, Value.nameExpr_eq]
  rfl

/-! ## Rewritten texts -/

/-- The comparison of a rewritten text with the program of its own lines: both write the same. -/
def faithful (tags : List Tag) (s : Text) : Bridge where
  remarks := at? tags s
  calls := Remark.calls
  world o ns o' ns' := o = o' ∧ ns = ns'
  excuses _ := False
  excusesStop _ := False

section Faithful

variable {tags : List Tag} {s : Text} (h : Mirrors (faithful tags s) m m')
include h

theorem delivered_faithful (d : Delivery) :
    Mirrors (faithful tags s) (delivered m d) (delivered m' d) :=
  h.delivered ⟨rfl, by rw [h.world.2]⟩

theorem agrees_accept_own (d : Delivery) :
    Agrees (faithful tags s) Anything (m.accept d) (own (m'.accept d)) := by
  rw [accept_eq, accept_eq]
  cases d.result with
  | ok written => exact .ok (delivered_faithful h d) trivial
  | error e => exact .error (e := .own (.delivery e)) (delivered_faithful h d)

theorem agrees_accept_receive (d : Delivery) :
    Agrees (faithful tags s) Anything (m.accept d) (receive m' d) := by
  rw [accept_eq, receive]
  cases d.result with
  | ok written => exact .ok (delivered_faithful h d) trivial
  | error e => exact .error (e := .delivery e) (delivered_faithful h d)

/-- The debug calls that a text makes itself. -/
theorem agrees_own (sites : List Site) (scope : Scope) (c : DebugCall) :
    Agrees (faithful tags s) Anything (m.debug file sites scope c)
      (own (m'.debug file sites scope c)) := by
  rw [Machine.debug, Machine.debug, h.shownBy]
  cases m'.shownBy file sites scope c with
  | error e => exact .error (e := .own e) h
  | ok p =>
    rw [Machine.reveal, Machine.reveal, h.world.1]
    exact agrees_accept_own h _

/-- **The call of a remark shows the remark.** -/
theorem agrees_mainCall {r : Remark} (hr : ∀ text, r.shows = .message text → text.OneLine)
    (sites : List Site) (scope : Scope) :
    Agrees (faithful tags s) Anything (m.debug file sites scope r.mainCall)
      (r.reveal scope m') := by
  rw [Machine.debug, h.shownBy, Remark.mainCall, Remark.reveal]
  cases hshows : r.shows with
  | message text =>
    have hshown : m'.shownBy file sites scope (.message r.tag.target.nameExpr text) =
        .ok (m'.store, r.tag.target.nameValue, .none, .message text) := by
      rw [Value.nameExpr_eq]
      rfl
    dsimp only
    rw [hshown, Machine.reveal, Outlets.deliverTo_named_none,
      Outlets.deliver_message _ _ _ (hr text hshows), h.world.1]
    exact agrees_accept_receive h _
  | dump entries =>
    have hshown : m'.shownBy file sites scope
        (.dump r.tag.target.nameExpr r.tag.format.nameExpr entries) =
        (evalEntries m'.globals scope m'.store entries).map fun p =>
          (p.1, r.tag.target.nameValue, r.tag.format.nameValue, .table (Value.entriesOf p.2)) := by
      rw [Value.nameExpr_eq, Value.nameExpr_eq]
      rw [Machine.shownBy]
      change (evalEntries m'.globals scope m'.store entries >>= _) = _
      cases evalEntries m'.globals scope m'.store entries <;> rfl
    dsimp only
    rw [hshown]
    -- an entry without a value stops the call and the remark alike
    cases evalEntries m'.globals scope m'.store entries with
    | error e => exact .error (e := .entry e) h
    | ok p =>
      dsimp only [Except.map]
      rw [Machine.reveal, Outlets.deliverTo_named, h.world.1]
      exact agrees_accept_receive h _

/-- **The second call of a remark shows its trace.** -/
theorem agrees_traceCall {r : Remark} (hd : ¬ r.tag.depth ≤ 0) (sites : List Site)
    (scope : Scope) :
    Agrees (faithful tags s) Anything (m.debug file sites scope r.traceCall)
      (r.trace file sites m') := by
  rw [Machine.debug, h.shownBy, shownBy_traceCall, Machine.reveal, Outlets.deliverTo_named,
    h.world.1, Remark.trace, if_neg hd]
  exact agrees_accept_receive h _

end Faithful

/-- A debug call that finds the library. -/
theorem run_of_isOpen {c : DebugCall} (h : LeavesLibrary m.globals) (hs : scope.IsOpen)
    (caller : Program.Caller) (sites : List Site) :
    c.run caller file sites scope m = m.debug file sites scope c := by
  rw [DebugCall.run, lookup_importWord m.store h hs]
  dsimp only
  rw [if_pos equals_importWord]

theorem andThen_unit {ε : Type} (x : Machine × Except ε Unit) :
    andThen x (fun m _ => (m, .ok ())) = x := by
  rcases x with ⟨m, _ | _⟩ <;> rfl

/-- **The debug calls of a remark do what performing it does.** -/
theorem faithful_holds (tags : List Tag) (s : Text) (file : Text) :
    (faithful tags s).Holds file where
  own h := agrees_own h
  remark := by
    intro m m' h scope hs n r hr caller sites
    have hmain : Agrees (faithful tags s) Anything (m.debug file sites scope r.mainCall)
        (r.reveal scope m') := agrees_mainCall h (fun text => oneLine_of_at? hr) sites scope
    have hunbound : ∀ {m m'}, Mirrors (faithful tags s) m m' →
        LeavesLibrary m.globals := fun h => h.globals ▸ h.unbound
    rw [show (faithful tags s).calls r = r.calls from rfl, Remark.calls, Remark.perform]
    by_cases hd : r.tag.depth ≤ 0
    · rw [if_pos hd, runCalls, run_of_isOpen (hunbound h) hs]
      refine hmain.andThen fun m m' _ h _ => ?_
      rw [Remark.trace, if_pos hd]
      exact .ok h trivial
    · rw [if_neg hd, runCalls, run_of_isOpen (hunbound h) hs]
      refine hmain.andThen fun m m' _ h _ => ?_
      rw [runCalls, run_of_isOpen (hunbound h) hs]
      exact (andThen_unit (m.debug file sites scope r.traceCall)).symm ▸
        agrees_traceCall h hd sites scope

/-! ## Before and after a run -/

theorem lookup?_settleEntries (σ : Store) (entries : Entries) {n : Text}
    (h : Value.lookup? n entries = none) : Value.lookup? n (σ.settleEntries entries).2 = none := by
  induction entries generalizing σ with
  | nil => rfl
  | cons e rest ih =>
    obtain ⟨k, v⟩ := e
    cases k with
    | text t =>
      rw [Value.lookup?] at h
      split at h
      · cases h
      · next ht =>
        rw [Store.settleEntries]
        dsimp only
        rw [Value.lookup?, if_neg ht]
        exact ih _ h
    | _ => exact ih _ h

/-- The machines before a run mirror each other. -/
theorem mirrors_machine (B : Bridge) (o : Outlets) {notices notices' : List Notice}
    {names : Namespace} (below : List Frame) (hw : B.world o notices o notices')
    (hn : LeavesLibrary names.entries) :
    Mirrors B (o.machine notices names below) (o.machine notices' names below) where
  world := hw
  store := rfl
  globals := rfl
  routines := rfl
  nextId := rfl
  below := rfl
  unbound := fun n h => lookup?_settleEntries _ _ (hn n h)
  spares := by simp [Outlets.machine]

/-- Mirrored machines show the same names and values. -/
theorem Mirrors.shown (h : Mirrors B m m') : m.shown = m'.shown := by
  have hliterals : ∀ entries, m.literals entries = m'.literals entries := by
    intro entries
    induction entries with
    | nil => rfl
    | cons e rest ih =>
      obtain ⟨k, v⟩ := e
      cases k with
      | text n =>
        have hshown : m.isShown n v = m'.isShown n v := by
          rw [Machine.isShown, Machine.isShown, h.routine?, Option.isNone_map]
        rw [Machine.literals, Machine.literals, hshown, h.store, ih]
      | _ => exact ih
  rw [Machine.shown, Machine.shown, h.globals, hliterals]

/-- A program that does not bind the name of the library does not hide it: the other name that would
hide it is none that a program binds. -/
theorem sparesLibrary_of_items {t : Text} {items : List Item} (hi : Program.items t = .ok items)
    (hb : ∀ i ∈ items, Invocation.importWord ∉ itemNames i) :
    ∀ i ∈ items, SparesLibrary (itemNames i) := by
  have hfixed : isBindable namesWord = false := by decide
  obtain ⟨hstatements, hroutines⟩ := isBindable_of_items hi
  have hbinds : ∀ {s : Placed}, s ∈ items.flatMap Item.statements →
      s.statement.binds? ≠ some namesWord := by
    intro s hs he
    have h := hstatements s hs namesWord he
    rw [hfixed] at h
    cases h
  intro i hmem
  refine List.forall_mem_cons.mpr ⟨hb i hmem, List.forall_mem_singleton.mpr fun hn => ?_⟩
  cases i with
  | statement s =>
    exact hbinds (List.mem_flatMap.mpr ⟨_, hmem, List.mem_singleton_self s⟩) (Option.mem_toList.mp hn)
  | routine r =>
    rw [itemNames, Routine.ownNames, ← List.cons_append] at hn
    rcases List.mem_append.mp hn with hn | hn
    · have h := hroutines r hmem namesWord hn
      rw [hfixed] at h
      cases h
    · obtain ⟨s, hs, he⟩ := List.mem_filterMap.mp hn
      exact hbinds (List.mem_flatMap.mpr ⟨_, hmem, hs⟩) he

/-- A program binds the names that it binds without its debug calls. -/
theorem sparesLibrary_of_spread {a : Nat → Option Remark} {cs : Remark → List DebugCall}
    {items : List Item} (h : ∀ i ∈ items.flatMap (spreadItem a cs), SparesLibrary (itemNames i)) :
    ∀ i ∈ items, SparesLibrary (itemNames i) := by
  intro i hi
  have hall : ∀ j ∈ spreadItem a cs i, SparesLibrary (itemNames j) := fun j hj =>
    h j (List.mem_flatMap.mpr ⟨i, hi, hj⟩)
  cases i with
  | routine r =>
    have hr := hall _ List.mem_cons_self
    rwa [itemNames, ownNames_spreadRoutine] at hr
  | statement s =>
    rcases spread_cases a cs s with ⟨r, hpass, -, -⟩ | ⟨hspread, -⟩
    · intro n _
      rw [itemNames, hpass]
      exact List.not_mem_nil
    · exact hall _ (by rw [spreadItem, hspread]; exact List.mem_singleton_self _)

end Direct

namespace Outlets

open Direct

variable {c : Config} {s t : Text} {more : List Notice} {names : Namespace} {items : List Item}

theorem run_of_filter (o : Outlets) {setup : Setup} (notices : List Notice) (below : List Frame)
    (file : Text) (names : Namespace) (hf : setup.filter o.files s = (more, .ok t))
    (hi : Program.items t = .ok items) :
    o.run notices below setup file names s =
      match Program.runItems file (o.machine (notices ++ more) names below) items with
      | (m, .ok ()) => (m, .ok ())
      | (m, .error e) => (m, .error (.program e)) := by
  rw [run, hf]
  dsimp only
  rw [hi]
  rfl

theorem filter_config (o : Outlets) (he : c.execEnabled = false)
    (hr : Rewrite.rewrite s c.tags false = (more, .ok t)) :
    (Setup.config c).filter o.files s = (more, .ok t) := by
  simp only [Setup.filter, Setup.resolve, he, hr, List.nil_append]

/-- **A rewritten program agrees with the program of the own lines.** -/
theorem exists_agrees_faithful (o : Outlets) (notices : List Notice) (below : List Frame)
    (file : Text) {tags : List Tag} (ht : ∀ tag ∈ tags, tag.IsNamed)
    (hr : (Rewrite.rewrite s tags false).2 = .ok t) (hi : Program.items t = .ok items)
    (hread : Readable tags s) (hb : ∀ i ∈ items, Invocation.importWord ∉ itemNames i)
    (hn : LeavesLibrary names.entries) :
    ∃ own, Program.items (held tags s) = .ok own ∧
      (∀ i ∈ own, SparesLibrary (itemNames i)) ∧
      Agrees (faithful tags s) Anything
        (Program.runItems file (o.machine notices names below) items)
        (Direct.runItems (at? tags s) file (o.machine notices names below) own) := by
  obtain ⟨own, hown, rfl⟩ := exists_items_held ht hread hr hi
  have hfree := sparesLibrary_of_spread (sparesLibrary_of_items hi hb)
  have hmirrors : Mirrors (faithful tags s) (o.machine notices names below)
      (o.machine notices names below) := mirrors_machine _ o below ⟨rfl, rfl⟩ hn
  exact ⟨own, hown, hfree, agrees_runItems (faithful_holds tags s file) hfree hmirrors⟩

/-- **Rewriting preserves meaning.** Where the rewritten text is a program that does not bind the
name of the library, and the names that it finds hide the library neither, the run leaves what the
text leaves that performs its remarks itself. -/
theorem run_eq_runDirect (o : Outlets) (notices : List Notice) (below : List Frame) (file : Text)
    (ht : ∀ tag ∈ c.tags, tag.IsNamed) (he : c.execEnabled = false)
    (hr : Rewrite.rewrite s c.tags false = (more, .ok t)) (hi : Program.items t = .ok items)
    (hread : Readable c.tags s)
    (hb : ∀ i ∈ items, Invocation.importWord ∉ itemNames i)
    (hn : LeavesLibrary names.entries) :
    let rewritten := o.run notices below (.config c) file names s
    let direct := o.runDirect (notices ++ more) below c.tags file names s
    rewritten.1.globals = direct.1.globals ∧ rewritten.1.store = direct.1.store ∧
      rewritten.1.shown = direct.1.shown ∧ rewritten.1.outlets = direct.1.outlets ∧
      rewritten.1.notices = direct.1.notices ∧ rewritten.2 = direct.2.mapError Fault.fault := by
  obtain ⟨own, hown, -, hagrees⟩ := exists_agrees_faithful o (notices ++ more) below file ht
    (congrArg Prod.snd hr) hi hread hb hn
  dsimp only
  rw [run_of_filter o notices below file names (filter_config o he hr) hi, runDirect, hown]
  dsimp only
  revert hagrees
  generalize Program.runItems file _ _ = x
  generalize Direct.runItems _ file _ _ = y
  intro hagrees
  -- the comparison excuses nothing
  cases hagrees with
  | ok h => exact ⟨h.globals, h.store, h.shown, h.world.1, h.world.2, rfl⟩
  | error h => exact ⟨h.globals, h.store, h.shown, h.world.1, h.world.2, rfl⟩
  | excused h => exact absurd h id
  | excusedStop h => exact absurd h id

/-- Whether a text is a program that leaves the name of the library alone can be computed. -/
theorem exists_items_of_all {t : Text}
    (h : (Program.items t).toOption.any (fun items =>
      items.all fun i => !(itemNames i).contains Invocation.importWord) = true) :
    ∃ items, Program.items t = .ok items ∧
      ∀ i ∈ items, Invocation.importWord ∉ itemNames i := by
  cases hi : Program.items t with
  | error e => rw [hi] at h; cases h
  | ok items =>
    rw [hi] at h
    exact ⟨items, rfl, by simpa [Except.toOption] using h⟩

/-- A dump of a name that has been bound above it. -/
theorem run_eq_runDirect_dump :
    let c : Config := ⟨[⟨['d'], 0, .text ['f'], .none⟩], .none, [], false⟩
    let s : Text := "x = 1\n##[d]= x\n".toList
    let o : Outlets := ⟨⟨[], []⟩, [], false, ⟨false, false⟩⟩
    (o.run [] [] (.config c) [] .default s).1.outlets =
        (o.runDirect [.claimed ['d'] 1] [] c.tags [] .default s).1.outlets ∧
      (o.run [] [] (.config c) [] .default s).2 =
        (o.runDirect [.claimed ['d'] 1] [] c.tags [] .default s).2.mapError Fault.fault := by
  intro c s o
  obtain ⟨t, items, hr, hi, hb⟩ : ∃ t items,
      Rewrite.rewrite s c.tags false = ([.claimed ['d'] 1], .ok t) ∧ Program.items t = .ok items ∧
        ∀ i ∈ items, Invocation.importWord ∉ itemNames i := by
    obtain ⟨items, hi, hb⟩ := exists_items_of_all (t := ("x = 1\n__import__('debugcomments')." ++
      "debug_dump('f', None, \x7b'x': x\x7d)\n").toList) (by decide +kernel)
    exact ⟨_, items, by decide +kernel, hi, hb⟩
  have hnamed : ∀ tag ∈ c.tags, tag.IsNamed := List.forall_mem_singleton.mpr ⟨.text _, .none⟩
  have hread : Readable c.tags s := by decide +kernel
  have hn : LeavesLibrary Namespace.default.entries := by decide +kernel
  have h := run_eq_runDirect (c := c) o [] [] [] hnamed rfl hr hi hread hb hn
  rw [List.nil_append] at h
  exact ⟨h.2.2.2.1, h.2.2.2.2.2⟩

/-- **A name that hides the library** makes a difference that no text can see: the one that the
library is found through, and the one that puts others in the place of the names of the language. -/
theorem run_ne_runDirect_hidden :
    let tag : Tag := ⟨['d'], 0, .none, .none⟩
    let c : Config := ⟨[tag], .none, [], false⟩
    let s : Text := "##[d] hi\n".toList
    let t : Text := "__import__('debugcomments').debug_msg(None, 'hi')\n".toList
    let names : Namespace := ⟨Store.empty, [(.text Invocation.importWord, .int 5)], 0⟩
    let names' : Namespace := ⟨Store.empty, [(.text namesWord, .dict [])], 0⟩
    let o : Outlets := ⟨⟨[], []⟩, [], false, ⟨false, false⟩⟩
    tag.IsNamed ∧ Readable [tag] s ∧ Rewrite.rewrite s [tag] false = ([.claimed ['d'] 1], .ok t) ∧
      (∃ items, Program.items t = .ok items ∧
        ∀ i ∈ items, Invocation.importWord ∉ itemNames i) ∧
      (o.run [] [] (.config c) [] names s).2 = .error (.program (.noRoutine "int".toList)) ∧
      (o.runDirect [.claimed ['d'] 1] [] [tag] [] names s).2 = .ok () ∧
      (o.run [] [] (.config c) [] names' s).2 =
        .error (.program (.unbound Invocation.importWord)) ∧
      (o.runDirect [.claimed ['d'] 1] [] [tag] [] names' s).2 = .ok () :=
  ⟨⟨.none, .none⟩, by decide +kernel, by decide +kernel, exists_items_of_all (by decide +kernel),
    by decide +kernel, by decide +kernel, by decide +kernel, by decide +kernel⟩

end Outlets

end Marginalia
