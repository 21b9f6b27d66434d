import Marginalia.Proofs.Program.Invocation

/-!
# Remarks

A remark is a directive under the tag that has claimed it, read as far as it can be read before the
program runs: a message, or a dump whose entries are expressions. It says what is shown when the
line of the directive is reached.

## Main definitions

* `Remark`: a message or a dump under a tag
* `Remark.ofDirective?`: the remark that a directive makes under a tag
* `Remark.calls`: the debug calls that show a remark

## Main results

* `Remark.exists_reading`: the line that replaces a directive reads as the calls of its remark
-/

namespace Marginalia

open Program

/-- What a remark shows. -/
inductive Showing where
  /-- A text. -/
  | message (s : Text)
  /-- The values of expressions under names. -/
  | dump (entries : List (Text × Expr))
  deriving Repr

/-- What is shown where a directive stands, in the way of a tag. -/
structure Remark where
  /-- The tag. -/
  tag : Tag
  /-- What is shown. -/
  shows : Showing
  deriving Repr

/-- The remark that a directive makes under a tag. Code makes none, and neither does a dump with an
entry that is no expression. -/
def Remark.ofDirective? (d : Directive) (tag : Tag) : Option Remark :=
  match d.kind with
  | .message => some ⟨tag, .message d.payload⟩
  | .dump => ((DumpEntry.ofPayload d.payload).mapM DumpEntry.read?).map fun es => ⟨tag, .dump es⟩
  | .exec => none

/-! ## The calls of a remark -/

namespace Remark

/-- The debug call that shows what a remark shows. -/
def mainCall (r : Remark) : DebugCall :=
  match r.shows with
  | .message s => .message r.tag.target.nameExpr s
  | .dump entries => .dump r.tag.target.nameExpr r.tag.format.nameExpr entries

/-- The debug call that shows the calls in progress. -/
def traceCall (r : Remark) : DebugCall :=
  .trace r.tag.target.nameExpr r.tag.depth r.tag.format.nameExpr

/-- The debug calls that show a remark. -/
def calls (r : Remark) : List DebugCall :=
  if r.tag.depth ≤ 0 then [r.mainCall] else [r.mainCall, r.traceCall]

/-! ## The line of a remark -/

theorem tag_of_ofDirective? {d : Directive} {tag : Tag} {r : Remark}
    (hr : ofDirective? d tag = some r) : r.tag = tag := by
  unfold ofDirective? at hr
  split at hr
  · cases hr
    rfl
  · obtain ⟨es, -, rfl⟩ := Option.map_eq_some_iff.mp hr
    rfl
  · cases hr

/-- A remark shows what the invocation of its directive asks for. -/
theorem mainCall?_invocation {d : Directive} {tag : Tag} {r : Remark}
    (hr : ofDirective? d tag = some r) : (d.invocation tag).mainCall? = some r.mainCall := by
  unfold ofDirective? at hr
  split at hr
  · next hk =>
    cases hr
    have hcall : (d.invocation tag).call = .message d.payload := by
      rw [Directive.invocation, Directive.call, hk]
    rw [Invocation.mainCall?, hcall]
    rfl
  · next hk =>
    obtain ⟨es, hes, rfl⟩ := Option.map_eq_some_iff.mp hr
    have hcall : (d.invocation tag).call = .dump (DumpEntry.ofPayload d.payload) := by
      rw [Directive.invocation, Directive.call, hk]
    rw [Invocation.mainCall?, hcall]
    dsimp only
    rw [hes]
    rfl
  · cases hr

/-- The calls of a remark are those of the invocation of its directive. -/
theorem callsFrom_invocation {d : Directive} {tag : Tag} {r : Remark}
    (hr : ofDirective? d tag = some r) : (d.invocation tag).callsFrom r.mainCall = r.calls := by
  obtain rfl := tag_of_ofDirective? hr
  rfl

/-- **The line that replaces a directive reads as the calls of its remark.** -/
theorem exists_reading {d : Directive} {tag : Tag} {r : Remark}
    (hr : ofDirective? d tag = some r)
    (hd : ¬ (0 < tag.depth ∧ Digits.tooLong tag.depth = true)) :
    ∃ ts, Lexes (d.invocation tag).line ts [] ∧ IsReading ts r.calls := by
  rw [Invocation.line_eq_lineIn, ← callsFrom_invocation hr]
  obtain ⟨ts, hlexes, hreading, -⟩ :=
    Invocation.exists_reading isPrintable (mainCall?_invocation hr) hd
  exact ⟨ts, hlexes, hreading⟩

end Remark

end Marginalia
