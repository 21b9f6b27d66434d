import Marginalia.Proofs.Delivery.Table
import Marginalia.Proofs.Json.RoundTrip

/-!
# Delivering a trace

A trace is collected by walking outward, call by call: some calls are left out, some are described,
and the walk ends early where the stack does. What is delivered in JSON can be read back, and says
of every call what unit of code it runs, where, and in which routine.

## Main definitions

* `Trace.Walk`: a walk along the calls in progress
* `Trace.Walk.Ends`: what a walk has described in the end
* `Frame.DescribedBy`: what is said about a call

## Main results

* `Trace.Walk.collect_step`: a step of a walk loses nothing
* `Trace.Walk.ends_iff`: a walk ends, with what is collected
* `Trace.getElem?_collect`: which calls are described
* `Request.trace_reads_back`: a trace that is delivered in JSON is read back
-/

namespace Marginalia

namespace Trace

variable {stack stack' : List Frame} {infos : List FrameInfo}

/-! ## Walks -/

/-- A walk outward along the calls in progress. -/
structure Walk where
  /-- The number of calls that are still to be left out. -/
  skip : Nat
  /-- The number of calls that are still to be described. -/
  depth : Nat
  /-- The calls from where the walk stands outward. -/
  rest : List Frame
  /-- What has been described. -/
  infos : List FrameInfo

namespace Walk

variable {w w' : Walk}

/-- The walk before its first step; negative numbers count as zero. -/
def start (stack : List Frame) (depth skip : Int) : Walk := ⟨skip.toNat, depth.toNat, stack, []⟩

/-- The walk one call further outward, unless the stack or the work has come to an end. Calls are
left out before any is described. -/
def step : Walk → Option Walk
  | ⟨_, _, [], _⟩ => none
  | ⟨skip + 1, depth, _ :: rest, infos⟩ => some ⟨skip, depth, rest, infos⟩
  | ⟨0, depth + 1, f :: rest, infos⟩ => some ⟨0, depth, rest, infos ++ [f.info]⟩
  | ⟨0, 0, _ :: _, _⟩ => none

/-- What the walk has described when it can go no further. -/
inductive Ends : Walk → List FrameInfo → Prop
  | done {w : Walk} (h : w.step = none) : Ends w w.infos
  | step {w w' : Walk} {infos : List FrameInfo} (h : w.step = some w') (hrest : Ends w' infos) :
    Ends w infos

/-- What the walk comes to: what it has described, and what is collected from where it stands. -/
def total (w : Walk) : List FrameInfo := w.infos ++ collect w.rest w.depth w.skip

/-- **A step of a walk loses nothing.** -/
theorem total_step (h : w.step = some w') : w'.total = w.total := by
  obtain ⟨skip, depth, rest, infos⟩ := w
  -- a call that is passed is the first of those that `collect` drops or takes
  cases rest with
  | nil => cases h
  | cons f rest =>
    cases skip with
    | succ skip =>
      obtain rfl := Option.some.inj h
      simp [total, collect]
    | zero =>
      cases depth with
      | zero => cases h
      | succ depth =>
        obtain rfl := Option.some.inj h
        simp [total, collect]

theorem total_of_step_eq_none (h : w.step = none) : w.total = w.infos := by
  obtain ⟨skip, depth, rest, infos⟩ := w
  cases rest with
  | nil => simp [total, collect]
  | cons f rest =>
    cases skip with
    | succ skip => cases h
    | zero =>
      cases depth with
      | zero => simp [total, collect]
      | succ depth => cases h

/-- Every step leaves fewer calls. -/
theorem length_rest_step (h : w.step = some w') : w'.rest.length < w.rest.length := by
  unfold step at h
  split at h
  · cases h
  · obtain rfl := Option.some.inj h
    exact Nat.lt_succ_self _
  · obtain rfl := Option.some.inj h
    exact Nat.lt_succ_self _
  · cases h

/-- A walk comes to an end. -/
theorem ends_total (w : Walk) : w.Ends w.total := by
  induction hn : w.rest.length using Nat.strongRecOn generalizing w with
  | ind n ih =>
    cases h : w.step with
    | none =>
      rw [total_of_step_eq_none h]
      exact .done h
    | some w' =>
      rw [← total_step h]
      exact .step h (ih _ (hn ▸ length_rest_step h) w' rfl)

theorem Ends.eq_total (h : w.Ends infos) : infos = w.total := by
  induction h with
  | done h => exact (total_of_step_eq_none h).symm
  | step h _ ih => rw [ih, total_step h]

/-- **A walk ends, with what is collected**, whatever numbers it starts with. -/
theorem ends_iff (stack : List Frame) (depth skip : Int) (infos : List FrameInfo) :
    (start stack depth skip).Ends infos ↔ infos = collect stack depth skip := by
  have htotal : (start stack depth skip).total = collect stack depth skip := by
    simp only [start, total, collect, Int.toNat_natCast, List.nil_append]
  constructor
  · intro h
    rw [h.eq_total, htotal]
  · rintro rfl
    rw [← htotal]
    exact ends_total _

end Walk

/-- **Which calls are described.** -/
theorem getElem?_collect (stack : List Frame) (depth skip : Int) (k : Nat) :
    (collect stack depth skip)[k]? =
      if k < depth.toNat then stack[skip.toNat + k]?.map Frame.info else none := by
  rw [collect, List.getElem?_map, List.getElem?_take]
  split
  · rw [List.getElem?_drop]
  · rfl

/-- What lies further outward than what is left out and described does not matter. -/
theorem collect_congr {depth skip : Int}
    (h : stack.take (skip.toNat + depth.toNat) = stack'.take (skip.toNat + depth.toNat)) :
    collect stack depth skip = collect stack' depth skip := by
  rw [collect, collect, List.take_drop, List.take_drop, h]

end Trace

/-! ## Descriptions -/

/-- What follows the last separator: it holds none, and nothing or a separator stands in front. -/
theorem Text.afterLast_spec (sep : Char) (s : Text) :
    sep ∉ s.afterLast sep ∧
      ∃ around : Text, s = around ++ s.afterLast sep ∧
        (around = [] ∨ around.getLast? = some sep) := by
  have hall : ∀ c ∈ s.reverse.takeWhile (· != sep), (c != sep) = true :=
    List.all_eq_true.mp List.all_takeWhile
  constructor
  · intro hmem
    exact bne_iff_ne.mp (hall sep (List.mem_reverse.mp hmem)) rfl
  · refine ⟨(s.reverse.dropWhile (· != sep)).reverse, ?_, ?_⟩
    · rw [afterLast, ← List.reverse_append, List.takeWhile_append_dropWhile, List.reverse_reverse]
    · rw [List.getLast?_reverse]
      cases hrest : s.reverse.dropWhile (· != sep) with
      | nil => exact Or.inl rfl
      | cons c rest =>
        have hstop := List.head?_dropWhile_not (· != sep) s.reverse
        rw [hrest] at hstop
        exact Or.inr (by simpa using hstop)

namespace Frame

variable {σ : Store} {f : Frame} {e : Entries}

/-- What is said about every call: the name of its unit of code, a question mark standing for the
name of a unit without one, the file, and the line. -/
def heading (σ : Store) (f : Frame) : Entries :=
  [(.text "unit_name".toList, (f.unit?.map σ.expand).getD (.text ['?'])),
    (.text "source_location".toList, .text f.file), (.text "line".toList, .int f.line)]

/-- What is said about a call. The name of its routine is the part of the name of the code after the
last dot; it is left out for code outside routines and where it is empty. -/
inductive DescribedBy (σ : Store) (f : Frame) : Entries → Prop
  | routine {around name : Text} (hcode : f.code ≠ "<module>".toList)
    (hparts : f.code = around ++ name) (haround : around = [] ∨ around.getLast? = some '.')
    (hdot : '.' ∉ name) (hname : name ≠ []) :
    DescribedBy σ f (f.heading σ ++ [(.text "routine_name".toList, .text name)])
  | unnamed (h : f.code = "<module>".toList ∨ f.code = [] ∨ f.code.getLast? = some '.') :
    DescribedBy σ f (f.heading σ)

theorem expandEntries_info (σ : Store) (f : Frame) :
    σ.expandEntries f.info.entries = f.heading σ ++ f.info.routineEntries := by
  have hroutine : σ.expandEntries f.info.routineEntries = f.info.routineEntries := by
    unfold FrameInfo.routineEntries
    split <;> rfl
  have hunit : σ.expand f.info.unit = (f.unit?.map σ.expand).getD (.text ['?']) := by
    unfold info
    cases f.unit? <;> rfl
  have hentries : σ.expandEntries f.info.entries =
      [(.text "unit_name".toList, σ.expand f.info.unit),
        (.text "source_location".toList, .text f.file), (.text "line".toList, .int f.line)] ++
          σ.expandEntries f.info.routineEntries := rfl
  rw [hentries, hroutine, hunit, heading]

/-- **What is collected about a call describes it.** -/
theorem describedBy_info (σ : Store) (f : Frame) :
    f.DescribedBy σ (σ.expandEntries f.info.entries) := by
  rw [expandEntries_info]
  by_cases hmodule : f.code = moduleCode
  · have hnone : f.info.routineEntries = [] := by
      rw [FrameInfo.routineEntries, info, routine, if_pos hmodule]
    rw [hnone, List.append_nil]
    exact .unnamed (Or.inl hmodule)
  · obtain ⟨hdot, around, hparts, haround⟩ := Text.afterLast_spec '.' f.code
    have hsome : f.info.routine = some (f.code.afterLast '.') := if_neg hmodule
    cases hname : f.code.afterLast '.' with
    | nil =>
      rw [hname, List.append_nil] at hparts
      rw [FrameInfo.routineEntries, hsome, hname, List.append_nil]
      exact .unnamed (Or.inr (hparts ▸ haround))
    | cons c name =>
      rw [hname] at hdot hparts
      rw [FrameInfo.routineEntries, hsome, hname]
      exact .routine hmodule hparts haround hdot (List.cons_ne_nil c name)

/-- What is said about a call has a JSON form, if the name of its unit has one. -/
theorem DescribedBy.plain (h : f.DescribedBy σ e) (hline : Digits.tooLong f.line = false)
    (hunit : ∀ v, f.unit? = some v → Json.Plain (σ.expand v)) : Json.Plain (.dict e) := by
  have hname : Json.Plain ((f.unit?.map σ.expand).getD (.text ['?'])) := by
    cases hv : f.unit? with
    | none => exact Json.plain_text _
    | some v => exact hunit v hv
  have hheading : ∀ entry ∈ f.heading σ, Json.Plain entry.2 := by
    simp only [heading, List.forall_mem_cons, List.not_mem_nil, false_imp_iff, implies_true,
      and_true]
    exact ⟨hname, Json.plain_text _, Json.plain_int hline⟩
  cases h with
  | routine _ _ _ _ _ =>
    refine Json.plain_dict ["unit_name".toList, "source_location".toList, "line".toList,
      "routine_name".toList] rfl (by decide) (List.forall_mem_append.mpr ⟨hheading, ?_⟩)
    exact List.forall_mem_singleton.mpr (Json.plain_text _)
  | unnamed _ =>
    exact Json.plain_dict ["unit_name".toList, "source_location".toList, "line".toList] rfl
      (by decide) hheading

end Frame

theorem Trace.expand_payload (σ : Store) (infos : List FrameInfo) :
    σ.expand (.dict (payload infos)) =
      .dict [(.text "TRACE".toList,
        .list (infos.map fun i => .dict (σ.expandEntries i.entries)))] := by
  have hitems : σ.expand (.list (infos.map fun i => .dict i.entries)) =
      .list (infos.map fun i => .dict (σ.expandEntries i.entries)) := by
    rw [Store.expand, Value.graft, Value.graftAll_eq_map, List.map_map]
    rfl
  rw [← hitems]
  rfl

/-! ## Deliveries -/

/-- What ends a line is a gap in JSON. -/
theorem exists_terminated (s : Text) :
    ∃ u, terminated s = s ++ u ∧ ∀ c ∈ u, Json.isGap c = true := by
  unfold terminated
  split
  · exact ⟨[], by simp, nofun⟩
  · exact ⟨['\n'], rfl, List.forall_mem_singleton.mpr rfl⟩

namespace Request

variable {o : Outlets} {σ : Store} {d : Destination} {depth : Int} {format : Text}
  {stack : List Frame}

/-- The text of a trace in JSON. -/
theorem text?_trace {s : Text} (lib : Library)
    (hformat : Renderer.wanted (some format) = Renderer.json.name)
    (h : Json.render σ (Trace.payload (Trace.collect stack depth 0)) = .ok s) :
    text? lib σ (.trace d depth (.text format) stack) = some s := by
  have hjson : (Renderer.select lib (some format)).1 = .json := by
    rw [Renderer.select, hformat, if_neg (by decide), if_pos rfl]
  have htext := text?_table lib σ d (some format) (Trace.payload (Trace.collect stack depth 0))
  rw [Content.result_render_table, hjson, Renderer.dump, h] at htext
  exact htext

/-- A trace has a JSON form, if the names of its units have one. -/
theorem plain_payload (hlines : ∀ f ∈ stack.take depth.toNat, Digits.tooLong f.line = false)
    (hunits : ∀ f ∈ stack.take depth.toNat, ∀ v, f.unit? = some v → Json.Plain (σ.expand v)) :
    Json.Plain (σ.expand (.dict (Trace.payload (Trace.collect stack depth 0)))) := by
  rw [Trace.expand_payload]
  refine Json.plain_dict ["TRACE".toList] rfl (by decide) (List.forall_mem_singleton.mpr ?_)
  refine Json.plain_list fun v hv => ?_
  obtain ⟨info, hinfo, rfl⟩ := List.mem_map.mp hv
  obtain ⟨f, hf, rfl⟩ := List.mem_map.mp hinfo
  exact (f.describedBy_info σ).plain (hlines f hf) (hunits f hf)

/-- A trace has a text in JSON, which is read back. -/
theorem exists_text?_trace (lib : Library)
    (hformat : Renderer.wanted (some format) = Renderer.json.name)
    (hplain : Json.Plain (σ.expand (.dict (Trace.payload (Trace.collect stack depth 0))))) :
    ∃ s, text? lib σ (.trace d depth (.text format) stack) = some s ∧
      Json.read (terminated s) =
        .ok (σ.expand (.dict (Trace.payload (Trace.collect stack depth 0)))) := by
  obtain ⟨s, -, hwrite, -⟩ := Json.exists_render .empty hplain
  obtain ⟨u, hu, hgaps⟩ := exists_terminated s
  refine ⟨s, text?_trace lib hformat hwrite, ?_⟩
  rw [hu]
  exact Json.read_write_append hplain hwrite hgaps

/-- **A trace that is delivered in JSON is read back.** Whatever number of calls is asked for, if
the names of their units have a JSON form, a destination that takes texts receives one. It is an
object with a single member, which lists the calls from the one that asks for the trace outward, as
many as are asked for and in progress, and describes each of them; the call of the function that
makes the trace is left out. What is collected is what a walk along any calls ends with. A long
trace is a short one followed by a trace that skips it, and calls further outward do not matter. -/
theorem trace_reads_back (hproper : o.files.home.IsProper) (hwritable : ∀ s, o.Takes d s)
    (hformat : Renderer.wanted (some format) = Renderer.json.name)
    (hlines : ∀ f ∈ stack.take depth.toNat, Digits.tooLong f.line = false)
    (hunits : ∀ f ∈ stack.take depth.toNat, ∀ v, f.unit? = some v → Json.Plain (σ.expand v)) :
    let c : Request := .trace d depth (.text format) stack
    ((∀ own : Frame, c.content = .table (Trace.payload (Trace.collect (own :: stack) depth 1))) ∧
      (c.deliver o σ).result = .ok true ∧
      ∃ s, ∃ items : List Entries, o.Received d s (c.deliver o σ).outlets ∧
        Json.read (terminated s) =
          .ok (.dict [(.text "TRACE".toList, .list (items.map .dict))]) ∧
        (items.length : Int) = min (max depth 0) stack.length ∧
        ∀ (k : Nat) (f : Frame) (e : Entries), stack[k]? = some f → items[k]? = some e →
          f.DescribedBy σ e) ∧
    ∀ calls : List Frame,
      (∀ (depth skip : Int) (infos : List FrameInfo),
        (Trace.Walk.start calls depth skip).Ends infos ↔ infos = Trace.collect calls depth skip) ∧
      (∀ m n s : Nat, Trace.collect calls (m + n : Nat) s =
        Trace.collect calls m s ++ Trace.collect calls n (s + m : Nat)) ∧
      ∀ (depth skip : Int) (calls' : List Frame),
        calls.take (skip.toNat + depth.toNat) = calls'.take (skip.toNat + depth.toNat) →
          Trace.collect calls depth skip = Trace.collect calls' depth skip := by
  intro c
  refine ⟨⟨fun own => rfl, ?_⟩, fun calls => ⟨Trace.Walk.ends_iff calls, Trace.collect_add calls,
    fun depth skip calls' => Trace.collect_congr⟩⟩
  obtain ⟨s, htext, hread⟩ :=
    exists_text?_trace (d := d) o.library hformat (plain_payload hlines hunits)
  have hresult : (c.deliver o σ).result = .ok true :=
    (result_eq_true_iff σ).mpr ⟨s, htext, hwritable s⟩
  -- what is received is the text of the trace, and that is read back
  obtain ⟨s', hs', hreceived⟩ := (c.outcome hproper σ).received hresult
  obtain rfl : s = s' := Option.some.inj (htext.symm.trans hs')
  refine ⟨hresult, s, (Trace.collect stack depth 0).map fun i => σ.expandEntries i.entries,
    hreceived, ?_, ?_, ?_⟩
  · rw [hread, Trace.expand_payload, List.map_map]
    rfl
  · rw [List.length_map, Trace.length_collect, Int.toNat_zero, Nat.sub_zero]
    omega
  · -- the calls are collected in their order, so that places can be compared
    intro k f e hf he
    rw [List.getElem?_map, Trace.getElem?_collect, Int.toNat_zero, Nat.zero_add, hf] at he
    split at he
    · obtain rfl := Option.some.inj he
      exact f.describedBy_info σ
    · cases he

/-- A method, code whose name ends with a dot in a unit without a name, and code outside routines;
one call less is asked for than there are. -/
theorem trace_reads_back_dotted :
    let o : Outlets := ⟨⟨["W".toList], [(["W".toList], .directory)]⟩, [], false, ⟨false, false⟩⟩
    let d : Destination := some "d/t".toList
    let stack : List Frame := [
      ⟨some (.text "pkg.mod".toList), "é\"\n.py".toList, 10, "C.run".toList⟩,
      ⟨none, "x.py".toList, -3, "a.b.".toList⟩,
      ⟨some (.text "__main__".toList), "main.py".toList, 7, "<module>".toList⟩]
    let c : Request := .trace d 2 (.text "JSON".toList) stack
    (c.deliver o .empty).result = .ok true ∧
      ∃ s, ∃ items : List Entries, o.Received d s (c.deliver o .empty).outlets ∧
        Json.read (terminated s) =
          .ok (.dict [(.text "TRACE".toList, .list (items.map .dict))]) ∧
        items.length = 2 ∧
        ∀ (k : Nat) (f : Frame) (e : Entries), stack[k]? = some f → items[k]? = some e →
          f.DescribedBy .empty e := by
  intro o d stack c
  have hlines : ∀ f ∈ stack.take (2 : Int).toNat, Digits.tooLong f.line = false := by
    decide +kernel
  have hunits : ∀ f ∈ stack.take (2 : Int).toNat, ∀ v, f.unit? = some v →
      Json.Plain (Store.empty.expand v) := by
    intro f hf v hv
    rcases List.mem_cons.mp hf with rfl | hf
    · obtain rfl := Option.some.inj hv
      exact Json.plain_text _
    · obtain rfl := List.mem_singleton.mp hf
      cases hv
  have hformat : Renderer.wanted (some "JSON".toList) = Renderer.json.name := by decide +kernel
  have hproper : o.files.home.IsProper := by decide
  have hwritable : ∀ s, o.Takes d s := fun s => rfl
  obtain ⟨⟨-, hresult, s, items, hreceived, hread, hlength, hdescribed⟩, -⟩ :=
    trace_reads_back hproper hwritable hformat hlines hunits
  refine ⟨hresult, s, items, hreceived, hread, ?_, hdescribed⟩
  exact Int.ofNat.inj hlength

/-- The name of a unit is a dictionary with a key that JSON lacks: the trace is delivered in the
data format, and cannot be read back. -/
theorem trace_not_read_back :
    let o : Outlets := ⟨⟨["W".toList], [(["W".toList], .directory)]⟩, [], false, ⟨false, false⟩⟩
    let unit : Value := .dict [(.tuple [.int 1], .int 2)]
    let stack : List Frame := [⟨some unit, "<debugcomments>".toList, 1, "<module>".toList⟩]
    let c : Request := .trace none 1 (.text "json".toList) stack
    (∀ s, o.Takes none s) ∧ (c.deliver o .empty).result = .ok true ∧
      ∀ s, o.Received none s (c.deliver o .empty).outlets →
        ∀ v, Json.read (terminated s) ≠ .ok v := by
  intro o unit stack c
  have hstream : (Json.read (c.deliver o .empty).outlets.stream).toOption.isSome = false := by
    decide +kernel
  refine ⟨fun s => rfl, by decide +kernel, fun s hs v hv => ?_⟩
  have hsame : (c.deliver o .empty).outlets.stream = terminated s := (hs.stream rfl).2
  rw [hsame, hv] at hstream
  cases hstream

end Request

end Marginalia
