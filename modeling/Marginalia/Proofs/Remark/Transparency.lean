import Marginalia.Proofs.Delivery
import Marginalia.Proofs.Remark.Meaning

/-!
# Remarks that leave a program alone

A program runs the same with its remarks and without them, as long as their entries have values:
what becomes of the output, and whether it can be written at all, makes no difference to the
program. Only a debug call that the program makes itself can be stopped by its destination, and
whether it is depends on the files.

## Main definitions

* `Direct.blind`: the comparison of a program with itself, once without its remarks

## Main results

* `Direct.agrees_perform`: a remark leaves the program alone
* `Direct.blind_holds`: what a program does without its remarks
* `Outlets.run_eq_run_quiet`: a run with remarks ends like the run without them
-/

namespace Marginalia

open Program Remark

namespace Direct

variable {m m' : Machine} {tags : List Tag} {s file : Text}

/-- The comparison of a program without its remarks with the program that performs them. It ends
where a debug call of the program itself is stopped by the character of code point zero in a path,
or where an entry of a dump has no value. The error stream is open. -/
def blind (tags : List Tag) (s : Text) : Bridge where
  remarks := at? tags s
  calls := noCalls
  world o _ o' _ := o.Alike o' ∧ o'.files.home.IsPlain ∧ o'.full.IsOpen
  excuses e := e = .delivery .nullByte
  excusesStop e := (∃ f, e = .entry f) ∨ e = .own (.delivery .nullByte)

section Blind

variable (h : Mirrors (blind tags s) m m')
include h

theorem world_delivered {o o' : Outlets} (ho : o.Alike m.outlets) (ho' : o'.Alike m'.outlets)
    (notices notices' : List Notice) : (blind tags s).world o notices o' notices' :=
  ⟨ho.trans (h.world.1.trans ho'.symm),
    show o'.files.home.IsPlain from ho'.home ▸ h.world.2.1,
    show o'.full.IsOpen from ho'.full ▸ h.world.2.2⟩

/-- What a delivery of the second program leaves is not seen by the first one. -/
theorem agrees_receive {d : Delivery} (hd : d.outlets.Alike m'.outlets)
    (hresult : ∃ written, d.result = .ok written) :
    Agrees (blind tags s) Anything (m, .ok ()) (receive m' d) := by
  obtain ⟨written, hw⟩ := hresult
  have hworld := world_delivered h (.refl m.outlets) hd m.notices (m'.notices ++ d.notices)
  have hmirrors : Mirrors (blind tags s) m (delivered m' d) :=
    ⟨hworld, h.store, h.globals, h.routines, h.nextId, h.below, h.unbound, h.spares⟩
  rw [receive, hw]
  exact .ok hmirrors trivial

/-- **A debug call that the program makes itself** does the same to the program in both runs, unless
the character of code point zero stops it. -/
theorem agrees_own_blind (sites : List Site) (scope : Scope) (c : DebugCall) :
    Agrees (blind tags s) Anything (m.debug file sites scope c)
      (own (m'.debug file sites scope c)) := by
  rw [Machine.debug, Machine.debug, h.shownBy]
  cases m'.shownBy file sites scope c with
  | error e => exact .error (e := .own e) h
  | ok p =>
    obtain ⟨σ, destination, format, content⟩ := p
    have hopen : m'.outlets.full.IsOpen := h.world.2.2
    have hsame := @Outlets.result_deliverTo _ _ h.world.1 (h.world.1.full ▸ hopen) σ destination
      format content
    have hsame' := @Outlets.result_deliverTo _ _ h.world.1.symm hopen σ destination format content
    have hworld := world_delivered h
      (Outlets.alike_deliverTo (o := m.outlets) σ destination format content)
      (Outlets.alike_deliverTo (o := m'.outlets) σ destination format content)
    rw [Machine.reveal, Machine.reveal, accept_eq, accept_eq]
    generalize m.outlets.deliverTo σ destination format content = d at hsame hsame' hworld ⊢
    generalize m'.outlets.deliverTo σ destination format content = d' at hsame hsame' hworld ⊢
    have hboth : Mirrors (blind tags s) (delivered m d) (delivered m' d') :=
      h.delivered (hworld _ _)
    -- outlets that are alike deliver alike, but for the character of code point zero
    cases hd : d.result with
    | error e =>
      rcases hsame hd with rfl | hd'
      · exact .excused rfl
      · rw [hd']
        exact .error (e := .own (.delivery e)) hboth
    | ok written =>
      cases hd' : d'.result with
      | ok written' => exact .ok hboth trivial
      | error e =>
        rcases hsame' hd' with rfl | hd''
        · exact .excusedStop (Or.inr rfl)
        · rw [hd] at hd''
          cases hd''

/-- **A remark leaves the program alone**, unless an entry of a dump has no value. -/
theorem agrees_perform {r : Remark} (hr : Destination.IsPlain r.tag.target.named?)
    (sites : List Site) (scope : Scope) :
    Agrees (blind tags s) Anything (m, .ok ()) (r.perform file sites scope m') := by
  have hreveal : Agrees (blind tags s) Anything (m, .ok ()) (r.reveal scope m') := by
    unfold Remark.reveal
    split
    · exact agrees_receive h (Outlets.alike_send _ _ _)
        (Outlets.exists_result_send h.world.2.1 hr h.world.2.2 _ _)
    · split
      · next e _ => exact .excusedStop (Or.inl ⟨e, rfl⟩)
      · exact agrees_receive h (Outlets.alike_deliver _ _ _ _)
          (Outlets.exists_result_deliver h.world.2.1 hr h.world.2.2 _ _ _)
  refine hreveal.andThen (f := fun m _ => (m, .ok ())) fun m m' _ h _ => ?_
  unfold Remark.trace
  split
  · exact .ok h trivial
  · exact agrees_receive h (Outlets.alike_deliver _ _ _ _)
      (Outlets.exists_result_deliver h.world.2.1 hr h.world.2.2 _ _ _)

end Blind

/-- **What a program does without its remarks** it does with them. -/
theorem blind_holds (hp : ∀ tag ∈ tags, Destination.IsPlain tag.target.named?) (s file : Text) :
    (blind tags s).Holds file where
  own h := agrees_own_blind h
  remark := by
    intro m m' h scope _ n r hr caller sites
    obtain ⟨p, -, d, tag, hc, hd⟩ := exists_of_at? hr
    have htag : r.tag = tag := tag_of_ofDirective? hd
    have hmem : tag ∈ tags := List.mem_of_find?_eq_some (Rewrite.find?_of_claimed? hc)
    exact agrees_perform h (htag ▸ hp tag hmem) sites scope

end Direct

namespace Outlets

open Direct

variable {c : Config} {s t : Text} {more silence : List Notice} {names : Namespace}
  {items own : List Item} {quiet : Setup}

/-- The debug calls of a program that consists of nothing else, with their lines. -/
def debugCalls? : List Item → Option (List (Nat × DebugCall))
  | [] => some []
  | .statement ⟨n, .debug c⟩ :: rest => (debugCalls? rest).map ((n, c) :: ·)
  | _ :: _ => none

/-- The machine after debug calls outside functions, made on their lines. -/
def runDebugCalls (file : Text) :
    Machine → List (Nat × DebugCall) → Machine × Except ProgramFault Unit
  | m, [] => (m, .ok ())
  | m, (n, c) :: rest =>
    andThen (m.debug file [⟨n, moduleCode⟩] .outside c) fun m _ => runDebugCalls file m rest

theorem runItems_of_debugCalls? {calls : List (Nat × DebugCall)} (file : Text) {m : Machine}
    (h : debugCalls? items = some calls)
    (hn : LeavesLibrary m.globals) :
    Program.runItems file m items = runDebugCalls file m calls := by
  induction items generalizing m calls with
  | nil =>
    cases h
    rfl
  | cons i rest ih =>
    unfold debugCalls? at h
    split at h
    · next heq => cases heq
    · next n c rest' heq =>
        obtain ⟨rfl, rfl⟩ := List.cons.inj heq
        obtain ⟨calls, hrest, rfl⟩ := Option.map_eq_some_iff.mp h
        rw [runItems_statement, runDebugCalls, run_debug, run_of_isOpen hn (by trivial),
          andThen_andThen]
        have hglobals := m.debug_globals file [⟨n, moduleCode⟩] .outside c
        generalize m.debug file [⟨n, moduleCode⟩] .outside c = x at hglobals ⊢
        obtain ⟨m', e | u⟩ := x
        · rfl
        · exact ih hrest (hglobals ▸ hn)
    · cases h

/-- A program of debug calls can be run without looking for its names. -/
theorem run_of_debugCalls? (o : Outlets) {setup : Setup} (notices : List Notice)
    (below : List Frame) (file : Text) {calls : List (Nat × DebugCall)}
    (hf : setup.filter o.files s = (more, .ok t))
    (hn : LeavesLibrary names.entries)
    (hi : Program.items t = .ok items) (h : debugCalls? items = some calls) :
    let result := runDebugCalls file (o.machine (notices ++ more) names below) calls
    o.run notices below setup file names s = (result.1, result.2.mapError .program) := by
  rw [run_of_filter o notices below file names hf hi,
    runItems_of_debugCalls? file h fun n hm => lookup?_settleEntries _ _ (hn n hm)]
  rcases runDebugCalls file _ calls with ⟨m, e | u⟩ <;> rfl

/-- Whether a text is a program of some debug calls can be computed. -/
theorem exists_debugCalls_of_any {t : Text} {p : List (Nat × DebugCall) → Bool}
    (h : ((Program.items t).toOption.bind debugCalls?).any p = true) :
    ∃ items calls, Program.items t = .ok items ∧ debugCalls? items = some calls ∧
      p calls = true := by
  obtain ⟨calls, hcalls, hp⟩ := (Option.any_eq_true _ _).mp h
  obtain ⟨items, hitems, hcalls⟩ := Option.bind_eq_some_iff.mp hcalls
  refine ⟨items, calls, ?_, hcalls, hp⟩
  cases hi : Program.items t with
  | error e => rw [hi] at hitems; cases hitems
  | ok items' => rw [hi] at hitems; rw [Option.some.inj hitems]

/-- What a program of debug calls ends with can be computed without its names. -/
theorem result_run_of_debugCalls? (o : Outlets) {setup : Setup} (notices : List Notice)
    (below : List Frame) (file : Text) {r : Except ProgramFault Unit}
    (hf : setup.filter o.files s = (more, .ok t))
    (hn : LeavesLibrary names.entries)
    (h : ((Program.items t).toOption.bind debugCalls?).any (fun calls =>
      (runDebugCalls file (o.machine (notices ++ more) names below) calls).2 = r) = true) :
    (o.run notices below setup file names s).2 = r.mapError .program := by
  obtain ⟨items, calls, hi, hcalls, hr⟩ := exists_debugCalls_of_any h
  rw [run_of_debugCalls? o notices below file hf hn hi hcalls, of_decide_eq_true hr]

end Outlets

end Marginalia
