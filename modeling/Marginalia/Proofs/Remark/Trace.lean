import Marginalia.Proofs.Program.Reach
import Marginalia.Proofs.Remark.Lines
import Marginalia.Proofs.Remark.Transparency

/-!
# Traces of a rewritten text

The trace of a remark lists the calls in progress, the innermost first. Since a rewritten text has
the lines of the text that it comes from, a trace says of every call on which line of that text it
is: the first one is where the remark stands, and every other one where the statement stands that
has entered the call before it.

## Main definitions

* `Program.Reports`: what a trace says of a call in progress

## Main results

* `Program.collect_frames`: what is collected above the calls that run a program
* `Outlets.trace_reports_lines`: the trace of a remark
-/

namespace Marginalia

open Program Direct

namespace Program

variable {c c' : DebugCall} {caller caller' : Program.Caller} {file : Text}
  {sites sites' : List Site} {scope : Scope} {m m' : Machine}

/-! ## Calls in progress -/

/-- What is collected above the calls that run a program. -/
theorem collect_frames (m : Machine) (file : Text) (vs : List Visit) {depth : Int}
    (h : depth ≤ vs.length) :
    Trace.collect (m.frames file (vs.map Visit.site)) depth 0 =
      (vs.take depth.toNat).map fun v =>
        Frame.info ⟨Value.lookup? unitKey m.globals, file, v.current.line, v.code⟩ := by
  have hle : depth.toNat ≤ vs.length := Int.toNat_le.mpr h
  rw [Trace.collect, Machine.frames, Int.toNat_zero, List.drop_zero, List.map_map,
    List.take_append_of_le_length (by simpa using hle), ← List.map_take, List.map_map]
  rfl

/-- A call that has shown something has found the library, and so does the next one. -/
theorem run_of_run_ok (h : c.run caller file sites scope m = (m', .ok ())) :
    c'.run caller' file sites' scope m' = m'.debug file sites' scope c' := by
  rw [DebugCall.run] at h
  cases hf : lookup m.store m.globals Invocation.importWord scope with
  | error e =>
    rw [hf] at h
    cases h
  | ok v =>
    rw [hf] at h
    dsimp only at h
    split at h
    · next hv =>
      have hglobals := m.debug_globals file sites scope c
      have hstore := m.debug_store file sites scope c
      rw [h] at hglobals hstore
      rw [DebugCall.run, hglobals, hstore, hf]
      exact if_pos hv
    · split at h <;> cases h

/-- What a trace says of a call in progress in the program of a rewritten text: the unit and the
file that are run, the function that the call is in, and the line of the text that its statement is
written on. -/
structure Reports (tags : List Tag) (execEnabled : Bool) (s t : Text) (items : List Item)
    (globals : Entries) (file : Text) (info : FrameInfo) (v : Visit) : Prop where
  unit : info.unit = (Value.lookup? unitKey globals).getD unknownUnit
  file : info.file = file
  line : info.line = v.current.line
  routine : v.StandsIn items info.routine
  written : Remark.IsWrittenOn tags execEnabled s t v.current

end Program

/-! ## Lines of files -/

/-- A text has the same lines whatever ends them. -/
theorem Text.rawLines_unixLines (s : Text) : s.unixLines.rawLines = s.rawLines := by
  have hs : '\r' ∉ s.unixLines := by
    intro h
    rcases mem_unixLines h with h | ⟨-, h⟩
    · exact absurd h (by decide)
    · exact h rfl
  rw [rawLines, unixLines_of_notMem hs, rawLines]

/-- **The lines of a file** are those of its text. -/
theorem FileTree.exists_of_readText {tree : FileTree} {path s : Text}
    (h : tree.readText path = .ok s) :
    ∃ content raw, tree.read path = .ok content ∧ Utf8.decode content = .ok raw ∧
      raw.rawLines = s.rawLines := by
  unfold readText at h
  split at h
  · cases h
  next content hread =>
  split at h
  · cases h
  next raw hraw =>
  cases h
  exact ⟨content, raw, hread, hraw, (Text.rawLines_unixLines raw).symm⟩

namespace Outlets

variable {c : Config} {s t : Text} {more : List Notice} {names : Namespace} {items : List Item}
  {v : Visit} {vs : List Visit} {r : Remark} {x : Text} {m : Machine} {flow : Flow}

theorem knows_machine (o : Outlets) (notices : List Notice) (names : Namespace)
    (below : List Frame) (items : List Item) : (o.machine notices names below).Knows items := by
  simp [Machine.Knows, machine]

/-- A call in progress in the program of a rewritten text is reported as it is. -/
theorem reports_of_mem (ht : ∀ tag ∈ c.tags, tag.IsNamed)
    (hr : (Rewrite.rewrite s c.tags c.execEnabled).2 = .ok t) (hi : Program.items t = .ok items)
    (hv : ∃ name, v.StandsIn items name) (globals : Entries) (file : Text) :
    Reports c.tags c.execEnabled s t items globals file
      (Frame.info ⟨Value.lookup? unitKey globals, file, v.current.line, v.code⟩) v := by
  obtain ⟨name, hstands⟩ := hv
  obtain ⟨code, hcode, hsuffix⟩ := hstands.exists_code
  have hroutine : Frame.routine ⟨Value.lookup? unitKey globals, file, v.current.line, v.code⟩ =
      name := by
    rw [hstands.code]
    exact routine_of_items hi hcode _ _ _
  have hmem := hcode.mem_of_statement (hsuffix.subset List.mem_cons_self)
  refine ⟨rfl, rfl, rfl, ?_, Remark.isWrittenOn_of_rewrite ht hr hi hmem⟩
  rwa [Frame.info, hroutine]

/-- After a remark its trace is next. -/
theorem exists_step_trace {file : Text} (ht : ∀ tag ∈ c.tags, tag.IsNamed)
    (hr : (Rewrite.rewrite s c.tags c.execEnabled).2 = .ok t) (hi : Program.items t = .ok items)
    (hv : ∃ name, v.StandsIn items name) (hx : s.rawLines[v.current.line - 1]? = some x)
    (hline : Remark.IsLineOf c.tags r x) (hd : 0 < r.tag.depth)
    (hmain : v.current.statement = .debug r.mainCall) (hok : v.run file vs = (m, .ok flow)) :
    ∃ w, Step file (v :: vs) (w :: vs) ∧ w.machine = m ∧
      w.current = ⟨v.current.line, .debug r.traceCall⟩ ∧
      ∀ sites, r.traceCall.run (call file w.depth) file sites w.scope m =
        m.debug file sites w.scope r.traceCall := by
  obtain ⟨name, hstands⟩ := hv
  obtain ⟨code, hcode, hsuffix⟩ := hstands.exists_code
  have hmem := hcode.mem_of_statement (hsuffix.subset List.mem_cons_self)
  have hat := Remark.at?_of_line ht hr hi hmem hx hline
  have hcurrent : v.current = ⟨v.current.line, .debug r.mainCall⟩ := by rw [← hmain]
  have hfollow := Remark.tracesFollow_of_rewrite ht hr hi hcode v.current.line r v.rest hat hd
  rw [← hcurrent] at hfollow
  obtain ⟨rest, hrest⟩ := hfollow hsuffix
  -- the remark is the call before, and it has ended
  have hrun := hok
  rw [Visit.run, hmain, run_debug] at hok
  generalize hcall : r.mainCall.run (call file v.depth) file _ v.scope v.machine = y at hok
  obtain ⟨m', e | u⟩ := y
  · cases hok
  cases hok
  refine ⟨⟨v.code, v.scope, m, v.depth, ⟨v.current.line, .debug r.traceCall⟩, rest⟩,
    .next hrun ?_, rfl, rfl, fun sites => run_of_run_ok hcall⟩
  rw [hrest]
  rfl

/-- **The trace of a remark reports the lines of the text.** -/
theorem trace_reports_lines (o : Outlets) (notices : List Notice) (below : List Frame) (file : Text)
    (ht : ∀ tag ∈ c.tags, tag.IsNamed)
    (hr : Rewrite.rewrite s c.tags c.execEnabled = (more, .ok t))
    (hi : Program.items t = .ok items)
    (hreach : Reaches file (o.machine (notices ++ more) names below) items (v :: vs))
    (hx : s.rawLines[v.current.line - 1]? = some x) (hline : Remark.IsLineOf c.tags r x)
    (hd : 0 < r.tag.depth) (hle : r.tag.depth ≤ (v :: vs).length)
    (hmain : v.current.statement = .debug r.mainCall) (hok : v.run file vs = (m, .ok flow)) :
    (∃ w infos, Step file (v :: vs) (w :: vs) ∧ w.machine = m ∧
        w.current = ⟨v.current.line, .debug r.traceCall⟩ ∧
        r.traceCall.run (call file w.depth) file ((w :: vs).map Visit.site) w.scope m =
          m.accept (m.outlets.deliverTo m.store r.tag.target.nameValue r.tag.format.nameValue
            (.table (Trace.payload infos))) ∧
        (infos.length : Int) = r.tag.depth ∧
        List.Forall₂ (Reports c.tags c.execEnabled s t items m.globals file) infos
          ((w :: vs).take r.tag.depth.toNat) ∧
        List.IsChain (fun w v => v.Enters w) (w :: vs)) ∧
      o.run notices below (.config c) file names s =
        runItems (o.machine (notices ++ more) names below) file (.ok items) ∧
      ∀ directory path, o.files.readText path = .ok s →
        o.runFile directory (.config c) path =
            o.run [.running path] [textFrame directory, fileFrame directory] (.config c) path
              (.ofFile path) s ∧
          ∃ content raw, o.files.read path = .ok content ∧ Utf8.decode content = .ok raw ∧
            raw.rawLines = s.rawLines := by
  have hr' : (Rewrite.rewrite s c.tags c.execEnabled).2 = .ok t := congrArg Prod.snd hr
  have hknows := knows_machine o (notices ++ more) names below items
  refine ⟨?_, ?_, fun directory path hread => ⟨?_, FileTree.exists_of_readText hread⟩⟩
  · have hv := (inProgress_of_reaches hknows hreach).standsIn v List.mem_cons_self
    obtain ⟨w, hstep, hmachine, hcurrent, hrun⟩ :=
      exists_step_trace ht hr' hi hv hx hline hd hmain hok
    -- where the trace is next, the calls in progress are those of the remark
    obtain ⟨m₀, st, rest, hnext, hsteps⟩ := hreach
    have hprogress := inProgress_of_reaches hknows ⟨m₀, st, rest, hnext, hsteps.tail hstep⟩
    have hcollect := collect_frames m file (w :: vs) hle
    refine ⟨w, Trace.collect (m.frames file ((w :: vs).map Visit.site)) r.tag.depth 0, hstep,
      hmachine, hcurrent, ?_, ?_, ?_, hprogress.isChain⟩
    · rw [hrun, Machine.debug, shownBy_traceCall, Machine.reveal]
    · rw [hcollect, List.length_map, List.length_take, List.length_cons]
      rw [List.length_cons] at hle
      omega
    · rw [hcollect, List.forall₂_map_left_iff, List.forall₂_same]
      intro u hu
      exact reports_of_mem ht hr' hi (hprogress.standsIn u (List.mem_of_mem_take hu)) _ _
  · have hfilter : (Setup.config c).filter o.files s = (more, .ok t) := by
      simp only [Setup.filter, Setup.resolve, hr, List.nil_append]
    rw [run, hfilter]
    dsimp only
    rw [hi]
  · rw [runFile, hread]

/-- A function that shows a message and two calls. -/
def callRoutine : Routine :=
  ⟨1, ['f'], [], [⟨2, .debug (.message (.literal .none) ['h', 'i'])⟩,
    ⟨2, .debug (.trace (.literal .none) 2 (.literal .none))⟩]⟩

/-- Whether a program is this function and then a call of it. -/
def isCallProgram : List Item → Bool
  | [.routine ⟨1, f, [], [⟨2, .debug (.message (.literal .none) a)⟩,
      ⟨2, .debug (.trace (.literal .none) k (.literal .none))⟩]⟩,
      .statement ⟨3, .evaluate (.call g [])⟩] =>
    f == ['f'] && g == ['f'] && a == ['h', 'i'] && k == 2
  | _ => false

theorem items_of_isCallProgram (h : (Program.items t).toOption.any isCallProgram = true) :
    Program.items t =
      .ok [.routine callRoutine, .statement ⟨3, .evaluate (.call ['f'] [])⟩] := by
  cases hi : Program.items t with
  | error e =>
    rw [hi] at h
    cases h
  | ok items =>
    rw [hi] at h
    have hcall : isCallProgram items = true := h
    unfold isCallProgram at hcall
    split at hcall
    · simp only [Bool.and_eq_true, beq_iff_eq] at hcall
      obtain ⟨⟨⟨rfl, rfl⟩, rfl⟩, rfl⟩ := hcall
      rfl
    · cases hcall

/-- A remark in a function that is called, in a text with carriage returns. -/
theorem trace_reports_lines_call :
    let c : Config := ⟨[⟨['d'], 2, .none, .none⟩], .none, [], false⟩
    let s : Text := "def f():\r\n    ##[d] hi\r\nf()\r\n".toList
    let o : Outlets := ⟨⟨[], []⟩, [], false, ⟨false, false⟩⟩
    let r : Remark := ⟨⟨['d'], 2, .none, .none⟩, .message ['h', 'i']⟩
    let t : Text := ("def f():\r\n    __import__('debugcomments').debug_msg(None, 'hi'); " ++
      "__import__('debugcomments').debug_trace(None, 2, None)\r\nf()\r\n").toList
    Rewrite.rewrite s c.tags c.execEnabled = ([.claimed ['d'] 1], .ok t) ∧
      s.rawLines[1]? = some "    ##[d] hi".toList ∧
      ∃ items v u m, Program.items t = .ok items ∧
      Reaches [] (o.machine [.claimed ['d'] 1] .default []) items [v, u] ∧
      v.current = ⟨2, .debug r.mainCall⟩ ∧ v.run [] [u] = (m, .ok (.next v.scope)) ∧
      ∃ (w : Visit) (infos : List FrameInfo),
        r.traceCall.run (call [] w.depth) [] [w.site, u.site] w.scope m =
          m.accept (m.outlets.deliverTo m.store .none .none (.table (Trace.payload infos))) ∧
        infos.map FrameInfo.line = [2, 3] := by
  intro c s o r t
  have hr : Rewrite.rewrite s c.tags c.execEnabled = ([.claimed ['d'] 1], .ok t) := by
    decide +kernel
  have hi := items_of_isCallProgram (t := t) (by decide +kernel)
  let before := o.machine [.claimed ['d'] 1] .default []
  let start := before.define callRoutine
  -- the call of the function, and the message in it
  let u : Visit :=
    ⟨moduleCode, .outside, start, maxDepth, ⟨3, .evaluate (.call ['f'] [])⟩, []⟩
  let v : Visit := ⟨['f'], .inside [] [], start, 999,
    ⟨2, .debug (.message (.literal .none) ['h', 'i'])⟩,
    [.statement ⟨2, .debug (.trace (.literal .none) 2 (.literal .none))⟩]⟩
  have hstep : Step [] [u] [v, u] :=
    .enter (e := ⟨start.store, before.routineValue callRoutine, []⟩) (r := callRoutine) rfl rfl rfl
      rfl rfl
  have hreach : Reaches [] before [.routine callRoutine, .statement u.current] [v, u] :=
    ⟨start, u.current, [], rfl, .tail .refl hstep⟩
  have hn : LeavesLibrary start.globals := by decide +kernel
  have hopen : v.scope.IsOpen := List.not_mem_nil
  have hshown : (start.debug [] [v.site, u.site] v.scope r.mainCall).2 = .ok () := by
    decide +kernel
  have hrun : v.run [] [u] = andThen (start.debug [] [v.site, u.site] v.scope r.mainCall)
      fun m _ => (m, .ok (.next v.scope)) := by
    rw [← run_of_isOpen hn hopen (call [] v.depth), ← run_debug]
    rfl
  obtain ⟨m, hok⟩ : ∃ m, v.run [] [u] = (m, .ok (.next v.scope)) := by
    rw [hrun]
    generalize start.debug [] [v.site, u.site] v.scope r.mainCall = y at hshown
    obtain ⟨m, _⟩ := y
    cases hshown
    exact ⟨m, rfl⟩
  have hline : Remark.IsLineOf c.tags r "    ##[d] hi".toList :=
    ⟨⟨"    ".toList, [['d']], .message, ['h', 'i']⟩, by decide +kernel, rfl, rfl⟩
  have hnamed : ∀ tag ∈ c.tags, tag.IsNamed := List.forall_mem_singleton.mpr ⟨.none, .none⟩
  have hx : s.rawLines[1]? = some "    ##[d] hi".toList := by decide +kernel
  obtain ⟨⟨w, infos, -, -, hcurrent, hrun, -, hreports, -⟩, -⟩ :=
    trace_reports_lines o [] [] [] hnamed hr hi hreach hx hline (by decide) (by decide) rfl hok
  refine ⟨hr, hx, _, v, u, m, hi, hreach, rfl, hok, w, infos, hrun, ?_⟩
  have htake : [w, u].take r.tag.depth.toNat = [w, u] := rfl
  rw [htake] at hreports
  cases hreports with
  | cons hw hrest =>
    cases hrest with
    | cons hu hnil =>
      cases hnil
      rw [List.map_cons, List.map_cons, List.map_nil, hw.line, hu.line, hcurrent]
      rfl

/-- **A dump that ends its own call** hides the call behind it: nothing follows the dump. -/
theorem trace_hidden_by_dump :
    let tag : Tag := ⟨['d'], 1, .none, .none⟩
    let line : Text := "##[d]= 1\x7d)#".toList
    let s : Text := line ++ ['\n']
    let o : Outlets := ⟨⟨[], []⟩, [], false, ⟨false, false⟩⟩
    let result := o.run [] [] (.config ⟨[tag], .none, [], false⟩) [] .default s
    tag.IsNamed ∧
      (∃ d, Directive.ofLine? line = some d ∧ d.kind = .dump ∧ d.names tag.name = true) ∧
      (∃ t items, Rewrite.rewrite s [tag] false = ([.claimed ['d'] 1], .ok t) ∧
        Program.items t = .ok items ∧ ∀ i ∈ items, Invocation.importWord ∉ itemNames i) ∧
      result.2 = .ok () ∧ result.1.outlets.stream = "\x7b'1\x7d)#': 1\x7d\n".toList := by
  intro tag line s o result
  let t : Text := ("__import__('debugcomments')." ++
    "debug_dump(None, None, \x7b'1\x7d)#': 1\x7d)#\x7d); " ++
      "__import__('debugcomments').debug_trace(None, 1, None)\n").toList
  have hr : Rewrite.rewrite s [tag] false = ([.claimed ['d'] 1], .ok t) := by decide +kernel
  have hn : LeavesLibrary Namespace.default.entries := by decide +kernel
  obtain ⟨items, hi, hb⟩ := exists_items_of_all (t := t) (by decide +kernel)
  obtain ⟨items', calls, hi', hcalls, hshown⟩ := exists_debugCalls_of_any (t := t)
    (p := fun calls =>
      let y := runDebugCalls [] (o.machine [.claimed ['d'] 1] .default []) calls
      decide (y.2 = .ok () ∧ y.1.outlets.stream = "\x7b'1\x7d)#': 1\x7d\n".toList))
    (by decide +kernel)
  have hfilter := filter_config (c := ⟨[tag], .none, [], false⟩) o rfl hr
  have hrun := run_of_debugCalls? o [] [] [] hfilter hn hi' hcalls
  obtain ⟨hok, hstream⟩ := of_decide_eq_true hshown
  rw [List.nil_append] at hrun
  generalize runDebugCalls [] (o.machine [.claimed ['d'] 1] .default []) calls = y
    at hrun hok hstream
  have hresult : result = (y.1, y.2.mapError .program) := hrun
  refine ⟨⟨.none, .none⟩, ⟨⟨[], [['d']], .dump, "1\x7d)#".toList⟩, by decide +kernel, rfl, rfl⟩,
    ⟨_, items, hr, hi, hb⟩, ?_, ?_⟩
  · rw [hresult, hok]
    rfl
  · rw [hresult]
    exact hstream

end Outlets

end Marginalia
