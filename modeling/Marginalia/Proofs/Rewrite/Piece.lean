import Marginalia.Proofs.Fault
import Marginalia.Proofs.Invocation
import Marginalia.Proofs.Text.Segments

/-!
# Rewriting line by line

Tags claim directives one after another, each over all lines. What becomes of a line depends on this
line only: the first tag whose name its directive lists replaces it. Lines keep what ends them, and
none is claimed twice.

## Main definitions

* `Rewrite.pieceAfter`: what the tags make of a line
* `Rewrite.claimant?`: the place of the tag that claims a line

## Main results

* `Rewrite.snd_claimAll`, `Rewrite.fst_claimAll`: the passes of all tags are one pass
* `Rewrite.snd_rewrite`: rewriting is a pass over segments
-/

namespace Marginalia

namespace Rewrite

variable {tag : Tag} {tags : List Tag} {execEnabled : Bool}

/-! ## One line -/

/-- What the tags make of a line that stands with what ends it: the first of them whose name the
directive lists replaces it. -/
def pieceAfter (tags : List Tag) (execEnabled : Bool) (piece : Text) :
    Except InvocationFault Text :=
  match Directive.ofLine? (body piece) with
  | none => .ok piece
  | some d =>
    match tags.find? fun tag => d.names tag.name with
    | none => .ok piece
    | some tag => (d.replacement tag execEnabled).map (· ++ terminator piece)

/-- The place of the tag that claims a line among the tags: the first one whose name the directive
lists. -/
def claimant? (tags : List Tag) (piece : Text) : Option Nat :=
  (Directive.ofLine? (body piece)).bind fun d => tags.findIdx? fun tag => d.names tag.name

/-- No tag claims a directive when it names none of them. -/
theorem claimant?_eq_none_iff {p : Text} {d : Directive}
    (hd : Directive.ofLine? (body p) = some d) :
    claimant? tags p = none ↔ tags.find? (fun tag => d.names tag.name) = none := by
  rw [claimant?, hd, Option.bind_some, List.findIdx?_eq_none_iff, List.find?_eq_none]
  simp

namespace Line

/-- A line after some tags. -/
def after (tags : List Tag) (execEnabled : Bool) : Line → Except InvocationFault Line
  | .settled s => .ok (.settled s)
  | .pending piece d =>
    match tags.find? fun tag => d.names tag.name with
    | none => .ok (.pending piece d)
    | some tag => (d.replacement tag execEnabled).map fun s => .settled (s ++ terminator piece)

/-- The place of the tag that claims the line. -/
def claimant? (tags : List Tag) : Line → Option Nat
  | .settled _ => none
  | .pending _ d => tags.findIdx? fun tag => d.names tag.name

theorem after_nil (l : Line) : after [] execEnabled l = .ok l := by cases l <;> rfl

theorem after_pending_of_names {d : Directive} (h : d.names tag.name = true) (piece : Text) :
    after (tag :: tags) execEnabled (.pending piece d) =
      (d.replacement tag execEnabled).map fun s => .settled (s ++ terminator piece) := by
  simp only [after, List.find?_cons, h]

theorem after_pending_of_not_names {d : Directive} (h : ¬ d.names tag.name = true) (piece : Text) :
    after (tag :: tags) execEnabled (.pending piece d) =
      after tags execEnabled (.pending piece d) := by
  simp only [after, List.find?_cons, h]

/-- A line after a tag and more of them is the line after the tag, after the others. -/
theorem after_cons (l : Line) :
    after (tag :: tags) execEnabled l =
      after [tag] execEnabled l >>= after tags execEnabled := by
  cases l with
  | settled s => rfl
  | pending piece d =>
    by_cases h : d.names tag.name = true
    · rw [after_pending_of_names h, after_pending_of_names h]
      cases d.replacement tag execEnabled <;> rfl
    · rw [after_pending_of_not_names h, after_pending_of_not_names h]
      rfl

/-- What a tag leaves of a line can be claimed by the tags after it. -/
theorem claimant?_cons {l l' : Line} (h : after [tag] execEnabled l = .ok l') (j : Nat) :
    (claimant? (tag :: tags) l == some (j + 1)) = (claimant? tags l' == some j) := by
  cases l with
  | settled s => cases h; rfl
  | pending piece d =>
    by_cases hd : d.names tag.name = true
    · rw [after_pending_of_names hd] at h
      cases hr : d.replacement tag execEnabled with
      | error e => rw [hr] at h; cases h
      | ok s =>
        rw [hr] at h
        cases h
        simp [claimant?, List.findIdx?_cons, hd]
    · rw [after_pending_of_not_names hd] at h
      cases h
      cases hi : tags.findIdx? fun tag => d.names tag.name <;>
        simp [claimant?, List.findIdx?_cons, hd, hi]

theorem failsWith_after (ht : ∀ tag ∈ tags, tag.IsNamed) (l : Line) :
    FailsWith (.literal .tooManyDigits) (after tags execEnabled l) := by
  cases l with
  | settled s => exact failsWith_ok _ _
  | pending piece d =>
    rw [after]
    split
    · exact failsWith_ok _ _
    · next tag h =>
      have hnamed := ht tag (List.mem_of_find?_eq_some h)
      exact FailsWith.map (fun e => Directive.replacement_fault hnamed) _

/-- What becomes of a line, as a text. -/
theorem after_ofPiece (tags : List Tag) (piece : Text) :
    (after tags execEnabled (ofPiece piece)).map text = pieceAfter tags execEnabled piece := by
  unfold ofPiece pieceAfter
  cases Directive.ofLine? (body piece) with
  | none => rfl
  | some d =>
    simp only [after]
    cases tags.find? fun tag => d.names tag.name with
    | none => rfl
    | some tag =>
      dsimp only
      cases d.replacement tag execEnabled <;> rfl

theorem claimant?_ofPiece (tags : List Tag) (piece : Text) :
    (ofPiece piece).claimant? tags = Rewrite.claimant? tags piece := by
  unfold ofPiece Rewrite.claimant?
  cases Directive.ofLine? (body piece) <;> rfl

end Line

/-! ## All lines -/

/-- A tag makes what it makes of the first line, and counts it if it claims it, whatever the tags
after it are. -/
theorem claim_cons (tags : List Tag) (l : Line) (rest : List Line) :
    claim tag execEnabled (l :: rest) = (Line.after [tag] execEnabled l).bind fun l' =>
      (claim tag execEnabled rest).map fun p =>
        (l' :: p.1, p.2 + if l.claimant? (tag :: tags) == some 0 then 1 else 0) := by
  cases l with
  | settled s => rfl
  | pending piece d =>
    by_cases h : d.names tag.name = true
    · rw [claim, if_pos h, Line.after_pending_of_names h, Line.claimant?, List.findIdx?_cons, h]
      cases d.replacement tag execEnabled <;> rfl
    · have hclaimant : (Line.claimant? (tag :: tags) (.pending piece d) == some 0) = false := by
        simp [Line.claimant?, List.findIdx?_cons, h]
      rw [claim, if_neg h, Line.after_pending_of_not_names h, hclaimant]
      rfl

/-- One tag makes one pass over the lines. -/
theorem map_fst_claim (lines : List Line) :
    (claim tag execEnabled lines).map Prod.fst = lines.mapM (Line.after [tag] execEnabled) := by
  induction lines with
  | nil => rfl
  | cons l rest ih =>
    rw [List.mapM_cons, ← ih, claim_cons []]
    cases Line.after [tag] execEnabled l with
    | error e => rfl
    | ok l' => cases claim tag execEnabled rest <;> rfl

/-- A tag counts the lines that it claims. -/
theorem snd_claim {lines lines' : List Line} {n : Nat}
    (h : claim tag execEnabled lines = .ok (lines', n)) (tags : List Tag) :
    n = lines.countP fun l => l.claimant? (tag :: tags) == some 0 := by
  induction lines generalizing lines' n with
  | nil => cases h; rfl
  | cons l rest ih =>
    rw [claim_cons tags] at h
    cases hl : Line.after [tag] execEnabled l with
    | error e => rw [hl] at h; cases h
    | ok l' =>
      rw [hl] at h
      obtain ⟨p, hrest, hp⟩ := Value.map_eq_ok_iff.mp h
      rw [List.countP_cons, ← ih hrest]
      exact (congrArg Prod.snd hp).symm

/-- **The passes of all tags are one pass over the lines.** -/
theorem snd_claimAll (ht : ∀ tag ∈ tags, tag.IsNamed) (lines : List Line) :
    (claimAll execEnabled tags lines).2 = lines.mapM (Line.after tags execEnabled) := by
  induction tags generalizing lines with
  | nil =>
    have hok : lines.mapM (Line.after [] execEnabled) = .ok lines := by
      refine mapM_eq_ok_iff.mpr (List.forall₂_same.mpr fun l _ => Line.after_nil l)
    rw [hok]
    rfl
  | cons tag tags ih =>
    have hfirst : ∀ l, FailsWith (.literal .tooManyDigits) (Line.after [tag] execEnabled l) :=
      Line.failsWith_after fun t h => ht t (List.mem_cons.mpr (Or.inl (List.mem_singleton.mp h)))
    have hrest : ∀ tag ∈ tags, tag.IsNamed := fun t h => ht t (List.mem_cons_of_mem _ h)
    rw [funext Line.after_cons,
      mapM_bind_of_failsWith hfirst (Line.failsWith_after hrest), ← map_fst_claim, claimAll]
    cases claim tag execEnabled lines with
    | error e => rfl
    | ok p => exact ih hrest p.1

/-- The notices of passes that come to their end: every tag gives the number of lines that it is
the first to claim. -/
theorem fst_claimAll {lines lines' : List Line}
    (h : (claimAll execEnabled tags lines).2 = .ok lines') :
    (claimAll execEnabled tags lines).1 = tags.zipIdx.flatMap fun (tag, j) =>
      claimNotices tag (lines.countP fun l => l.claimant? tags == some j) := by
  induction tags generalizing lines with
  | nil => rfl
  | cons tag tags ih =>
    rw [claimAll] at h ⊢
    cases hc : claim tag execEnabled lines with
    | error e => rw [hc] at h; cases h
    | ok p =>
      obtain ⟨rest, n⟩ := p
      rw [hc] at h
      have hpass : List.Forall₂ (fun a b => Line.after [tag] execEnabled a = .ok b) lines rest := by
        rw [← mapM_eq_ok_iff, ← map_fst_claim, hc]
        rfl
      -- the tags after the first one find the lines as its pass leaves them
      have hcount : ∀ j, lines.countP (fun l => l.claimant? (tag :: tags) == some (j + 1)) =
          rest.countP fun l => l.claimant? tags == some j := by
        intro j
        apply countP_eq_of_forall₂ _ hpass
        intro a b hab
        exact Line.claimant?_cons hab j
      rw [List.zipIdx_cons, List.flatMap_cons, List.zipIdx_succ, List.flatMap_map]
      dsimp only at h ⊢
      rw [← snd_claim hc tags]
      simp only [hcount]
      exact congrArg (claimNotices tag n ++ ·) (ih h)

/-! ## Segments -/

theorem failsWith_pieceAfter (ht : ∀ tag ∈ tags, tag.IsNamed) (piece : Text) :
    FailsWith (.literal .tooManyDigits) (pieceAfter tags execEnabled piece) := by
  rw [← Line.after_ofPiece]
  exact (Line.failsWith_after ht _).map _

/-- **Rewriting is a pass over the segments of a text.** -/
theorem snd_rewrite (ht : ∀ tag ∈ tags, tag.IsNamed) (s : Text) :
    (rewrite s tags execEnabled).2 =
      ((segments s).mapM (pieceAfter tags execEnabled)).map List.flatten := by
  have hpieces : (rewrite s tags execEnabled).2 =
      ((pieces s).mapM (pieceAfter tags execEnabled)).map List.flatten := by
    change (claimAll execEnabled tags ((pieces s).map Line.ofPiece)).2.map textOf = _
    rw [snd_claimAll ht, ← funext (Line.after_ofPiece tags), ← map_mapM, List.mapM_map]
    simp only [Function.comp_def]
    cases (pieces s).mapM fun p => Line.after tags execEnabled (Line.ofPiece p) <;> rfl
  rw [hpieces]
  -- an empty segment after the last line feed is no directive, and adds nothing to the text
  rcases segments_eq_pieces_or s with h | h
  · rw [h]
  · rw [h, List.mapM_append]
    cases (pieces s).mapM (pieceAfter tags execEnabled) with
    | error e => rfl
    | ok qs => exact congrArg Except.ok (by simp)

end Rewrite

end Marginalia
