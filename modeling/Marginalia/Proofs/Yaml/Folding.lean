import Marginalia.Yaml.Scalar

/-!
# Folded text read back

Where a text is written over several lines depends on the column at which it starts, but how it is
written does not: a single space may become a new line, and line breaks are doubled by one. A reader
undoes both without knowing the columns, since spaces and line breaks never stand side by side in a
text that is folded.

## Main definitions

* `Yaml.Foldable`: runs of characters that can be folded
* `Yaml.Folded`: a text, and one way to write it in lines
* `Yaml.Seam`, `Yaml.unfold`: reading lines as a text

## Main results

* `Yaml.foldable_runs`: the runs of a text that single quotes show can be folded
* `Yaml.exists_folded`: writing runs folds their text
* `Yaml.Folded.unfold_eq`: a folded text reads back
-/

namespace Marginalia

namespace Yaml

variable {c d : Char} {s t : Text}

/-! ## Runs that can be folded -/

theorem isBreak_space : isBreak ' ' = false := by decide

theorem isSpaceOrBreak_eq_false_iff : isSpaceOrBreak c = false ↔ c ≠ ' ' ∧ isBreak c = false := by
  simp [isSpaceOrBreak]

/-- The first character, if there is one, is neither a space nor a line break. -/
def StartsSolid (s : Text) : Prop := ∀ c ∈ s.head?, isSpaceOrBreak c = false

/-- Runs of one class each, with no run of spaces beside a run of line breaks. -/
inductive Foldable : List Text → Prop
  /-- No runs. -/
  | nil : Foldable []
  /-- Spaces in front of what is solid. -/
  | spaces (n : Nat) {rest : List Text} (hnext : StartsSolid rest.flatten) (h : Foldable rest) :
    Foldable (Text.spaces (n + 1) :: rest)
  /-- Line breaks in front of what is solid. -/
  | breaks {run : Text} {rest : List Text} (hne : run ≠ []) (hrun : ∀ c ∈ run, isBreak c = true)
    (hnext : StartsSolid rest.flatten) (h : Foldable rest) : Foldable (run :: rest)
  /-- Other characters. -/
  | solid {run : Text} {rest : List Text} (hne : run ≠ [])
    (hrun : ∀ c ∈ run, isSpaceOrBreak c = false) (h : Foldable rest) : Foldable (run :: rest)

variable {run : Text} {rest : List Text}

theorem runClass_eq_zero_iff : runClass c = 0 ↔ c = ' ' := by
  unfold runClass
  split
  · simp [*]
  · split <;> simp [*]

theorem runClass_eq_one_iff : runClass c = 1 ↔ isBreak c = true := by
  unfold runClass
  split
  · next h => simp [h, isBreak_space]
  · split <;> simp [*]

theorem runClass_eq_two_iff : runClass c = 2 ↔ isSpaceOrBreak c = false := by
  rw [isSpaceOrBreak_eq_false_iff]
  unfold runClass
  split
  · simp [*]
  · split <;> simp [*]

/-- A character is a space, a line break or solid. -/
theorem class_cases (c : Char) : c = ' ' ∨ isBreak c = true ∨ isSpaceOrBreak c = false := by
  rw [isSpaceOrBreak_eq_false_iff]
  cases isBreak c <;> simp [Decidable.em]

/-- A space and a line break, in either order. -/
def clash (c d : Char) : Bool := (isBreak c && d == ' ') || (c == ' ' && isBreak d)

theorem allowsSingle_iff :
    allowsSingle s = true ↔ s.all isOrdinary = true ∧ s.anyPair clash = false := by
  rw [allowsSingle, Bool.and_eq_true, Bool.not_eq_true']
  rfl

theorem anyPair_cons_cons {rel : Char → Char → Bool} {r : Text} :
    Text.anyPair rel (c :: d :: r) = (rel c d || Text.anyPair rel (d :: r)) := rfl

/-- A run of one character in front of another class. -/
theorem Foldable.cons (h : Foldable rest)
    (hnext : ∀ d ∈ rest.flatten.head?, runClass c ≠ runClass d ∧ clash c d = false) :
    Foldable ([c] :: rest) := by
  -- what follows a space or a break is of another class and does not clash, so it is solid
  rcases class_cases c with rfl | hbreak | hsolid
  · refine .spaces 0 (fun d hd => isSpaceOrBreak_eq_false_iff.mpr ⟨?_, ?_⟩) h
    · rintro rfl
      exact (hnext ' ' hd).1 rfl
    · simpa [clash, isBreak_space] using (hnext d hd).2
  · refine .breaks (List.cons_ne_nil _ _) (by simpa using hbreak)
      (fun d hd => isSpaceOrBreak_eq_false_iff.mpr ⟨?_, ?_⟩) h
    · rintro rfl
      simpa [clash, hbreak] using (hnext ' ' hd).2
    · have hne := (hnext d hd).1
      rw [runClass_eq_one_iff.mpr hbreak] at hne
      exact Bool.eq_false_iff.mpr fun hd' => hne (runClass_eq_one_iff.mpr hd').symm
  · exact .solid (List.cons_ne_nil _ _) (by simpa using hsolid) h

/-- The first run with one more character of its class. -/
theorem Foldable.glue (h : Foldable rest) (hd : rest.flatten.head? = some d)
    (hclass : runClass c = runClass d) : Foldable (Text.glue c rest) := by
  cases h with
  | nil => simp at hd
  | spaces n hnext h =>
    obtain rfl : ' ' = d := by simpa [Text.spaces, List.replicate_succ] using hd
    obtain rfl := runClass_eq_zero_iff.mp hclass
    exact .spaces (n + 1) hnext h
  | @breaks run rest hne hrun hnext h =>
    obtain ⟨e, run, rfl⟩ := List.exists_cons_of_ne_nil hne
    obtain rfl : e = d := by simpa using hd
    rw [runClass_eq_one_iff.mpr (hrun e List.mem_cons_self), runClass_eq_one_iff] at hclass
    exact .breaks (List.cons_ne_nil _ _) (List.forall_mem_cons.mpr ⟨hclass, hrun⟩) hnext h
  | @solid run rest hne hrun h =>
    obtain ⟨e, run, rfl⟩ := List.exists_cons_of_ne_nil hne
    obtain rfl : e = d := by simpa using hd
    rw [runClass_eq_two_iff.mpr (hrun e List.mem_cons_self), runClass_eq_two_iff] at hclass
    exact .solid (List.cons_ne_nil _ _) (List.forall_mem_cons.mpr ⟨hclass, hrun⟩) h

@[simp] theorem runs_flatten (s : Text) : (runs s).flatten = s := Text.cutWhere_flatten _ s

/-- **The runs of a text can be folded** where no space stands beside a line break. -/
theorem foldable_runs (h : s.anyPair clash = false) : Foldable (runs s) := by
  induction s with
  | nil => exact .nil
  | cons c r ih =>
    cases r with
    | nil => exact .cons .nil nofun
    | cons d r =>
      rw [anyPair_cons_cons, Bool.or_eq_false_iff] at h
      have hrest := ih h.2
      have hhead : (runs (d :: r)).flatten.head? = some d := by rw [runs_flatten, List.head?_cons]
      have hstep : runs (c :: d :: r) = if runClass c != runClass d then [c] :: runs (d :: r)
        else Text.glue c (runs (d :: r)) := rfl
      -- the first character makes a run of its own or joins the run behind it
      rw [hstep]
      split
      · next hclass =>
        refine .cons hrest fun e he => ?_
        obtain rfl := Option.some.inj (hhead.symm.trans he)
        exact ⟨by simpa using hclass, h.1⟩
      · next hclass => exact hrest.glue hhead (by simpa using hclass)

/-! ## Texts written in lines -/

/-- What a run of line breaks is doubled by. -/
def doubled (run : Text) : Text := if run.head? = some '\n' then ['\n'] else []

/-- The second text is the first one written in lines that are indented by `indent`. -/
inductive Folded (indent : Nat) : Text → Text → Prop
  /-- Nothing. -/
  | nil : Folded indent [] []
  /-- A character that is neither a space nor a line break. -/
  | solid {c : Char} {s t : Text} (hc : isSpaceOrBreak c = false) (h : Folded indent s t) :
    Folded indent (c :: s) (c :: t)
  /-- Spaces as they are. -/
  | spaces (n : Nat) {s t : Text} (hnext : StartsSolid s) (h : Folded indent s t) :
    Folded indent (Text.spaces (n + 1) ++ s) (Text.spaces (n + 1) ++ t)
  /-- A space as a new line. -/
  | newLine {s t : Text} (hne : s ≠ []) (hnext : StartsSolid s) (h : Folded indent s t) :
    Folded indent (' ' :: s) (newLine indent ++ t)
  /-- Line breaks. -/
  | breaks {run s t : Text} (hne : run ≠ []) (hrun : ∀ c ∈ run, isBreak c = true)
    (hnext : StartsSolid s) (h : Folded indent s t) :
    Folded indent (run ++ s) (doubled run ++ run ++ Text.spaces indent ++ t)

section Layout

variable {indent : Nat}

theorem Folded.solids (h : Folded indent s t) (hrun : ∀ c ∈ run, isSpaceOrBreak c = false) :
    Folded indent (run ++ s) (run ++ t) := by
  induction run with
  | nil => exact h
  | cons c run ih =>
    rw [List.forall_mem_cons] at hrun
    exact .solid hrun.1 (ih hrun.2)

/-- Folding leaves a solid first character in its place. -/
theorem Folded.head?_eq (h : Folded indent s t) (hs : StartsSolid s) : t.head? = s.head? := by
  have hspace : isSpaceOrBreak ' ' = true := rfl
  cases h with
  | nil => rfl
  | solid => rfl
  | spaces n => exact absurd (hs ' ' rfl) (by simp [hspace])
  | newLine => exact absurd (hs ' ' rfl) (by simp [hspace])
  | @breaks s t run hne hrun =>
    obtain ⟨c, run, rfl⟩ := List.exists_cons_of_ne_nil hne
    have hc := (isSpaceOrBreak_eq_false_iff.mp (hs c rfl)).2
    rw [hrun c List.mem_cons_self] at hc
    cases hc

theorem Folded.startsSolid (h : Folded indent s t) (hs : StartsSolid s) : StartsSolid t := by
  unfold StartsSolid
  rw [h.head?_eq hs]
  exact hs

/-! ## Writing folds -/

/-- A written text between single quotes, or as it is. -/
def shownIn (quoted : Bool) (t : Text) : Text := if quoted then doubleQuotes t else t

theorem doubleQuotes_of_notMem (h : '\'' ∉ t) : doubleQuotes t = t := by
  induction t with
  | nil => rfl
  | cons c t ih =>
    rw [List.mem_cons, not_or] at h
    rw [doubleQuotes, List.flatMap_cons, if_neg (Ne.symm h.1)]
    exact congrArg (c :: ·) (ih h.2)

theorem shownIn_append (quoted : Bool) (s t : Text) :
    shownIn quoted (s ++ t) = shownIn quoted s ++ shownIn quoted t := by
  cases quoted
  · rfl
  · exact List.flatMap_append

theorem shownIn_of_notMem (quoted : Bool) (h : '\'' ∉ t) : shownIn quoted t = t := by
  cases quoted
  · rfl
  · exact doubleQuotes_of_notMem h

section Writing

variable (quoted split : Bool) (column : Nat) (first : Bool)

theorem writeRuns_spaces (n : Nat) :
    writeRuns quoted split indent column first (Text.spaces (n + 1) :: rest) =
      if (Text.spaces (n + 1)).length = 1 && width < column && split && !first && !rest.isEmpty then
        newLine indent ++ writeRuns quoted split indent indent false rest
      else Text.spaces (n + 1) ++
        writeRuns quoted split indent (column + (Text.spaces (n + 1)).length) false rest := rfl

theorem writeRuns_breaks (hne : run ≠ []) (hrun : ∀ c ∈ run, isBreak c = true) :
    writeRuns quoted split indent column first (run :: rest) =
      doubled run ++ run ++ Text.spaces indent ++
        writeRuns quoted split indent indent false rest := by
  obtain ⟨c, run, rfl⟩ := List.exists_cons_of_ne_nil hne
  have hc : runClass c = 1 := runClass_eq_one_iff.mpr (hrun c List.mem_cons_self)
  rw [writeRuns, List.head?_cons, Option.map_some, hc]
  rfl

theorem writeRuns_solid (hne : run ≠ []) (hrun : ∀ c ∈ run, isSpaceOrBreak c = false) :
    writeRuns quoted split indent column first (run :: rest) = shownIn quoted run ++
      writeRuns quoted split indent (column + (shownIn quoted run).length) false rest := by
  obtain ⟨c, run, rfl⟩ := List.exists_cons_of_ne_nil hne
  have hc : runClass c = 2 := runClass_eq_two_iff.mpr (hrun c List.mem_cons_self)
  rw [writeRuns, List.head?_cons, Option.map_some, hc]
  rfl

end Writing

theorem notMem_quote_spaces (n : Nat) : '\'' ∉ Text.spaces n := by
  simp [Text.spaces, List.mem_replicate]

theorem notMem_quote_newLine (n : Nat) : '\'' ∉ newLine n := by
  simp [newLine, notMem_quote_spaces]

theorem notMem_quote_breaks (hrun : ∀ c ∈ run, isBreak c = true) :
    '\'' ∉ doubled run ++ run ++ Text.spaces indent := by
  have hquote : '\'' ∉ run := fun h => absurd (hrun _ h) (by decide)
  have hdoubled : '\'' ∉ doubled run := by
    unfold doubled
    split <;> simp
  simp [hquote, hdoubled, notMem_quote_spaces]

/-- **Writing runs folds their text**, whatever the columns are. -/
theorem exists_folded (h : Foldable rest) (quoted split : Bool) (indent column : Nat)
    (first : Bool) : ∃ t, writeRuns quoted split indent column first rest = shownIn quoted t ∧
      Folded indent rest.flatten t := by
  -- the columns only decide whether a single space is a new line, and both ways are folds
  induction h generalizing column first with
  | nil => exact ⟨[], by cases quoted <;> rfl, .nil⟩
  | @spaces n rest hnext h ih =>
    rw [writeRuns_spaces]
    split
    · next hfold =>
      obtain ⟨t, ht, hfolded⟩ := ih indent false
      simp only [Bool.and_eq_true, decide_eq_true_eq, Text.length_spaces, Bool.not_eq_true',
        List.isEmpty_eq_false_iff] at hfold
      obtain rfl : n = 0 := by omega
      refine ⟨newLine indent ++ t, ?_, .newLine ?_ hnext hfolded⟩
      · rw [ht, shownIn_append, shownIn_of_notMem quoted (notMem_quote_newLine indent)]
      · cases h with
        | nil => simp at hfold
        | spaces => simp [Text.spaces]
        | breaks hne => simp [hne]
        | solid hne => simp [hne]
    · obtain ⟨t, ht, hfolded⟩ := ih (column + (Text.spaces (n + 1)).length) false
      refine ⟨Text.spaces (n + 1) ++ t, ?_, .spaces n hnext hfolded⟩
      rw [ht, shownIn_append, shownIn_of_notMem quoted (notMem_quote_spaces _)]
  | @breaks run rest hne hrun hnext h ih =>
    obtain ⟨t, ht, hfolded⟩ := ih indent false
    refine ⟨doubled run ++ run ++ Text.spaces indent ++ t, ?_, .breaks hne hrun hnext hfolded⟩
    rw [writeRuns_breaks _ _ _ _ hne hrun, ht, shownIn_append,
      shownIn_of_notMem quoted (notMem_quote_breaks hrun)]
  | @solid run rest hne hrun h ih =>
    obtain ⟨t, ht, hfolded⟩ := ih (column + (shownIn quoted run).length) false
    refine ⟨run ++ t, ?_, hfolded.solids hrun⟩
    rw [writeRuns_solid _ _ _ _ hne hrun, ht, shownIn_append]

end Layout

/-! ## Reading lines -/

/-- Where a reader of lines stands. -/
inductive Seam
  /-- Inside a line. -/
  | text
  /-- Behind a single line feed. -/
  | feed
  /-- Behind other line breaks, or in an indentation. -/
  | margin

/-- What a character adds to the text, and where the reader stands behind it. -/
def Seam.step : Seam → Char → Text × Seam
  | text, c => if c = '\n' then ([], feed) else if isBreak c then ([c], margin) else ([c], text)
  | feed, c =>
    if c = ' ' then ([' '], margin) else if isBreak c then ([c], margin) else ([' ', c], text)
  | margin, c => if c = ' ' then ([], margin) else if isBreak c then ([c], margin) else ([c], text)

/-- The text of lines. -/
def unfold : Seam → Text → Text
  | _, [] => []
  | seam, c :: r => (seam.step c).1 ++ unfold (seam.step c).2 r

theorem unfold_cons (seam : Seam) (c : Char) (r : Text) :
    unfold seam (c :: r) = (seam.step c).1 ++ unfold (seam.step c).2 r := rfl

theorem unfold_text_solid (hc : isSpaceOrBreak c = false) (t : Text) :
    unfold .text (c :: t) = c :: unfold .text t := by
  have hbreak := (isSpaceOrBreak_eq_false_iff.mp hc).2
  have hfeed : c ≠ '\n' := by
    rintro rfl
    exact absurd hbreak (by decide)
  simp [unfold_cons, Seam.step, hbreak, hfeed]

theorem unfold_text_spaces (n : Nat) (t : Text) :
    unfold .text (Text.spaces n ++ t) = Text.spaces n ++ unfold .text t := by
  induction n with
  | zero => rfl
  | succ n ih => exact congrArg (' ' :: ·) ih

theorem unfold_margin_spaces (n : Nat) (t : Text) :
    unfold .margin (Text.spaces n ++ t) = unfold .margin t := by
  induction n with
  | zero => rfl
  | succ n ih => exact ih

theorem unfold_margin_breaks (hrun : ∀ c ∈ run, isBreak c = true) (t : Text) :
    unfold .margin (run ++ t) = run ++ unfold .margin t := by
  induction run with
  | nil => rfl
  | cons c run ih =>
    rw [List.forall_mem_cons] at hrun
    have hc : c ≠ ' ' := by
      rintro rfl
      exact absurd hrun.1 (by decide)
    simp [unfold_cons, Seam.step, hrun.1, hc, ih hrun.2]

/-- The margin ends at a solid character. -/
theorem unfold_margin (ht : StartsSolid t) : unfold .margin t = unfold .text t := by
  cases t with
  | nil => rfl
  | cons c t =>
    have hc := ht c rfl
    obtain ⟨hspace, hbreak⟩ := isSpaceOrBreak_eq_false_iff.mp hc
    rw [unfold_text_solid hc]
    simp [unfold_cons, Seam.step, hspace, hbreak]

variable {indent : Nat}

/-- A single line feed is a space. -/
theorem unfold_text_newLine (hne : t ≠ []) (ht : StartsSolid t) :
    unfold .text (newLine indent ++ t) = ' ' :: unfold .text t := by
  change unfold .feed (Text.spaces indent ++ t) = _
  cases indent with
  | zero =>
    obtain ⟨c, t, rfl⟩ := List.exists_cons_of_ne_nil hne
    have hc := ht c rfl
    obtain ⟨hspace, hbreak⟩ := isSpaceOrBreak_eq_false_iff.mp hc
    rw [unfold_text_solid hc]
    simp [Text.spaces, unfold_cons, Seam.step, hspace, hbreak]
  | succ n =>
    change ' ' :: unfold .margin (Text.spaces n ++ t) = _
    rw [unfold_margin_spaces, unfold_margin ht]

/-- Doubled line breaks are themselves. -/
theorem unfold_text_breaks (hne : run ≠ []) (hrun : ∀ c ∈ run, isBreak c = true) (t : Text) :
    unfold .text (doubled run ++ run ++ t) = run ++ unfold .margin t := by
  obtain ⟨c, run, rfl⟩ := List.exists_cons_of_ne_nil hne
  rw [List.forall_mem_cons] at hrun
  by_cases hc : c = '\n'
  · subst hc
    exact congrArg ('\n' :: ·) (unfold_margin_breaks hrun.2 t)
  · have hdoubled : doubled (c :: run) = [] := if_neg (by simpa using hc)
    simp [hdoubled, unfold_cons, Seam.step, hc, hrun.1, unfold_margin_breaks hrun.2]

/-- **A folded text reads back.** -/
theorem Folded.unfold_eq (h : Folded indent s t) : unfold .text t = s := by
  induction h with
  | nil => rfl
  | solid hc _ ih => rw [unfold_text_solid hc, ih]
  | spaces n _ _ ih => rw [unfold_text_spaces, ih]
  | @newLine s t hne hnext h ih =>
    -- a line feed is a space only if something comes after it
    have ht : t ≠ [] := by
      rintro rfl
      exact hne (by simpa [unfold] using ih.symm)
    rw [unfold_text_newLine ht (h.startsSolid hnext), ih]
  | @breaks s t run hne hrun hnext h ih =>
    rw [List.append_assoc, unfold_text_breaks hne hrun, unfold_margin_spaces,
      unfold_margin (h.startsSolid hnext), ih]

end Yaml

end Marginalia
