import Marginalia.Proofs.Program.Gathering
import Marginalia.Proofs.Remark.Lockstep

/-!
# Programs that differ in remarks only

The rewritten text is the program of the own lines of a text with debug calls in the places of
remarks, and the text itself is that program without these places.

## Main definitions

* `Remark.spread`, `Remark.spreadItem`: a program with debug calls in the places of remarks

## Main results

* `Remark.exists_gathers_of_calls`: places from debug calls
* `Remark.gathers_eq_of_vanishes`: nothing from places
-/

namespace Marginalia

open Program

namespace Remark

/-- A statement, or the debug calls in the place of a remark. -/
def spread (a : Nat → Option Remark) (cs : Remark → List DebugCall) (s : Placed) : List Placed :=
  match s.statement, a s.line with
  | .pass, some r => (cs r).map fun c => ⟨s.line, .debug c⟩
  | _, _ => [s]

/-- A function with debug calls in the places of remarks. -/
def spreadRoutine (a : Nat → Option Remark) (cs : Remark → List DebugCall) (r : Routine) : Routine :=
  { r with body := r.body.flatMap (spread a cs) }

/-- An item with debug calls in the places of remarks. -/
def spreadItem (a : Nat → Option Remark) (cs : Remark → List DebugCall) : Item → List Item
  | .statement s => (spread a cs s).map .statement
  | .routine r => [.routine (spreadRoutine a cs r)]

/-- No calls for any remark. -/
def noCalls (_ : Remark) : List DebugCall := []

variable {a : Nat → Option Remark} {cs : Remark → List DebugCall}

theorem spread_own {s : Placed} (h : a s.line = none) : spread a cs s = [s] := by
  unfold spread
  split
  · next hs => rw [h] at hs; cases hs
  · rfl

theorem spread_remark {n : Nat} {r : Remark} (h : a n = some r) :
    spread a cs ⟨n, .pass⟩ = (cs r).map fun c => ⟨n, .debug c⟩ := by
  simp [spread, h]

/-- The statements of a line without a remark stay as they are. -/
theorem flatMap_spread_own {line : Line} {ss : List Placed} (h : statements? line = some ss)
    (ha : a line.number = none) : ss.flatMap (spread a cs) = ss := by
  have hall := line_of_statements? h
  clear h
  induction ss with
  | nil => rfl
  | cons s ss ih =>
    obtain ⟨hs, hall'⟩ := List.forall_mem_cons.mp hall
    rw [List.flatMap_cons, ih hall', spread_own (by rw [hs, ha])]
    rfl

theorem flatMap_spreadItem_statements (ss : List Placed) :
    (ss.map Item.statement).flatMap (spreadItem a cs) =
      (ss.flatMap (spread a cs)).map .statement := by
  induction ss with
  | nil => rfl
  | cons s ss ih =>
    rw [List.map_cons, List.flatMap_cons, ih, List.flatMap_cons, List.map_append]
    rfl

/-! ## What stands for a place -/

/-- The token that holds the place of a remark. -/
def placeTokens : List Token := [.keyword passWord]

theorem statements?_placeTokens (n depth : Nat) :
    statements? ⟨n, depth, placeTokens⟩ = some [⟨n, .pass⟩] := rfl

theorem header?_placeTokens : header? placeTokens = none := rfl

/-- The calls of a remark and its place. -/
def Calls (r : Remark) (ts ts' : List Token) : Prop := IsReading ts r.calls ∧ ts' = placeTokens

/-- The place of a remark and nothing. -/
def Vanishes (_ : Remark) (ts ts' : List Token) : Prop := ts = placeTokens ∧ ts' = []

/-- **The program with places** from the program with debug calls. -/
theorem exists_gathers_of_calls {gx gy : List Said} (h : Merged a Calls gx gy)
    {above : List Indent} {b : Block} {lx : List Line} {body : List Placed} {items : List Item}
    (hl : levels above none gx = some lx) (hg : Gathers b lx body items) :
    ∃ ly body' items', levels above none gy = some ly ∧ Gathers b ly body' items' ∧
      body = body'.flatMap (spread a calls) ∧ items = items'.flatMap (spreadItem a calls) := by
  induction h generalizing above b lx body items with
  | nil =>
    cases hl
    cases hg with
    | nil hb => exact ⟨[], [], [], rfl, .nil hb, rfl, rfl⟩
  | own hn _ ih =>
    obtain ⟨above', lx', hs, hl', rfl⟩ := levels_cons hl
    cases hg with
    | header hr hd hh t =>
      obtain ⟨ly, body', items', hly, hg', rfl, rfl⟩ := ih hl' t
      exact ⟨_, _, _, levels_of_settle hs hly, .header hr hd hh hg', rfl, rfl⟩
    | outside hr hd hh hss t =>
      obtain ⟨ly, body', items', hly, hg', rfl, rfl⟩ := ih hl' t
      refine ⟨_, _, _, levels_of_settle hs hly, .outside hr hd hh hss hg', rfl, ?_⟩
      rw [List.flatMap_append, flatMap_spreadItem_statements, flatMap_spread_own hss hn]
    | inside hr hd hss t =>
      obtain ⟨ly, body', items', hly, hg', rfl, rfl⟩ := ih hl' t
      refine ⟨_, _, _, levels_of_settle hs hly, .inside hr hd hss hg', ?_, rfl⟩
      rw [List.flatMap_append, flatMap_spread_own hss hn]
  | @remark r n i ts ts' gx gy hn hR _ _ ih =>
    obtain ⟨hread, rfl⟩ := hR
    obtain ⟨above', lx', hs, hl', rfl⟩ := levels_cons hl
    -- the calls and the place are statements at the same depth
    have hplace := statements?_placeTokens n above'.length
    cases hg with
    | header hr hd hh t => exact absurd hh (by simp [hread.header?])
    | outside hr hd hh hss t =>
      obtain ⟨ly, body', items', hly, hg', rfl, rfl⟩ := ih hl' t
      obtain rfl := Option.some.inj ((hread.statements? n above'.length).symm.trans hss)
      refine ⟨_, _, _, levels_of_settle (s := ⟨n, i, placeTokens⟩) hs hly,
        .outside hr hd header?_placeTokens hplace hg', rfl, ?_⟩
      rw [List.flatMap_append, flatMap_spreadItem_statements, List.flatMap_singleton,
        spread_remark hn]
    | inside hr hd hss t =>
      obtain ⟨ly, body', items', hly, hg', rfl, rfl⟩ := ih hl' t
      obtain rfl := Option.some.inj ((hread.statements? n above'.length).symm.trans hss)
      refine ⟨_, _, _, levels_of_settle (s := ⟨n, i, placeTokens⟩) hs hly,
        .inside hr hd hplace hg', ?_, rfl⟩
      rw [List.flatMap_append, List.flatMap_singleton, spread_remark hn]
  | gone _ hR => exact absurd hR.2 (by simp [placeTokens])

/-- **The program without places** from the program with places: a line of its own is as deep in
one as in the other. -/
theorem gathers_eq_of_vanishes {gx gy : List Said} (h : Merged a Vanishes gx gy)
    {above below : List Indent} {b c : Block} {lx ly : List Line} {body body' : List Placed}
    {items items' : List Item} (hb : Stage b above) (hc : Stage c below)
    (hlx : levels above none gx = some lx) (hgx : Gathers b lx body items)
    (hly : levels below none gy = some ly) (hgy : Gathers c ly body' items') :
    body' = body.flatMap (spread a noCalls) ∧ items' = items.flatMap (spreadItem a noCalls) := by
  induction h generalizing above below b c lx ly body body' items items' with
  | nil =>
    cases hlx
    cases hly
    cases hgx
    cases hgy
    exact ⟨rfl, rfl⟩
  | @own s _ _ hn _ ih =>
    obtain ⟨above', lx', hs, hlx', rfl⟩ := levels_cons hlx
    obtain ⟨below', ly', hs', hly', rfl⟩ := levels_cons hly
    have hr := hgx.refuses?_eq_none
    obtain rfl := hb.agree hc hs hs' hr hgy.refuses?_eq_none
    rcases hb.after hs hr with rfl | ⟨hdeep, hinside⟩
    · -- at the margin: the first line of a function, or statements
      cases hh : header? s.tokens with
      | some p =>
        obtain ⟨body₁, items₁, t, rfl, rfl⟩ := hgx.of_header rfl hh
        obtain ⟨body₂, items₂, t', rfl, rfl⟩ := hgy.of_header rfl hh
        obtain ⟨rfl, rfl⟩ := ih (.begun _) (.begun _) hlx' t hly' t'
        exact ⟨rfl, rfl⟩
      | none =>
        obtain ⟨ss, items₁, hss, t, rfl⟩ := hgx.of_outside rfl hh
        obtain ⟨ss', items₂, hss', t', rfl⟩ := hgy.of_outside rfl hh
        obtain ⟨rfl, rfl⟩ := ih .outside .outside hlx' t hly' t'
        obtain rfl := Option.some.inj (hss.symm.trans hss')
        refine ⟨rfl, ?_⟩
        rw [List.flatMap_append, flatMap_spreadItem_statements, flatMap_spread_own hss hn]
    · obtain ⟨ss, body₁, hss, t, rfl⟩ := hgx.of_inside hdeep
      obtain ⟨ss', body₂, hss', t', rfl⟩ := hgy.of_inside hdeep
      obtain ⟨rfl, rfl⟩ := ih hinside hinside hlx' t hly' t'
      obtain rfl := Option.some.inj (hss.symm.trans hss')
      exact ⟨by rw [List.flatMap_append, flatMap_spread_own hss hn], rfl⟩
  | remark _ hR hne => exact absurd hR.2 hne
  | @gone r n i ts gx gy hn hR _ ih =>
    obtain ⟨rfl, -⟩ := hR
    obtain ⟨above', lx', hs, hlx', rfl⟩ := levels_cons hlx
    have hplace := statements?_placeTokens n above'.length
    -- the line is in the first program only, where it holds a place
    rcases hb.after hs hgx.refuses?_eq_none with rfl | ⟨hdeep, hinside⟩
    · obtain ⟨ss, items₁, hss, t, rfl⟩ := hgx.of_outside rfl header?_placeTokens
      obtain ⟨rfl, rfl⟩ := ih .outside hc hlx' t hly hgy
      obtain rfl := Option.some.inj (hplace.symm.trans hss)
      refine ⟨rfl, ?_⟩
      rw [List.flatMap_append, flatMap_spreadItem_statements, List.flatMap_singleton,
        spread_remark hn]
      rfl
    · obtain ⟨ss, body₁, hss, t, rfl⟩ := hgx.of_inside hdeep
      obtain ⟨rfl, rfl⟩ := ih hinside hc hlx' t hly hgy
      obtain rfl := Option.some.inj (hplace.symm.trans hss)
      refine ⟨?_, rfl⟩
      rw [List.flatMap_append, List.flatMap_singleton, spread_remark hn]
      rfl

end Remark

end Marginalia
