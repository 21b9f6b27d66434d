import Marginalia.Proofs.Program.Lexing

/-!
# What the lines of a program say

Reading lines has two parts that do not depend on each other: brackets tell which lines belong
together, and indentations tell how deep they stand. What a line says is known before its depth.

## Main definitions

* `Program.Said`: what a line says, with its indentation in the place of its depth
* `Program.saidFrom`: what some lines say
* `Program.SaysFrom`: how lines say it, one line at a time
* `Program.levels`: the depths of lines
* `Program.AreLeveled`: lines that are what is said at its depth
* `Program.Says`: a text that says some tokens on a line of its own

## Main results

* `Program.areLeveled`: lines are what is said at its depth
* `Program.exists_of_saidFrom`: a line that has been begun is ended
* `Program.isGap_of_lines`: a program is indented with spaces, tabs and form feeds
-/

namespace Marginalia

namespace Program

/-- What a line says. -/
structure Said where
  /-- The number of the line. -/
  number : Nat
  /-- How far it is indented. -/
  indent : Indent
  /-- Its tokens. -/
  tokens : List Token
  deriving Repr

namespace Said

/-- A line that has been begun, or else a new one, with tokens at its end. -/
def extend (number : Nat) (raw : Text) (ts : List Token) : Option Said → Said
  | some s => { s with tokens := s.tokens ++ ts }
  | none => ⟨number, Indent.ofLine raw, ts⟩

end Said

/-- What lines say, numbered from `number` on, while brackets are open on a line that has been
begun. -/
def saidFrom (number : Nat) (opened : Nesting) (begun : Option Said) :
    List Text → Option (List Said)
  | [] => if opened.isEmpty then some [] else none
  | raw :: rest =>
    match tokens number opened raw with
    | .error _ => none
    | .ok ([], _) => saidFrom (number + 1) opened begun rest
    | .ok (t :: ts, opened) =>
      let s := Said.extend number raw (t :: ts) begun
      if opened.isEmpty then (saidFrom (number + 1) [] none rest).map (s :: ·)
      else saidFrom (number + 1) opened (some s) rest

/-- Lines at their depths, under some indentations; the depth of the first one may be known. -/
def levels (above : List Indent) : Option Nat → List Said → Option (List Line)
  | _, [] => some []
  | some depth, s :: rest => (levels above none rest).map (⟨s.number, depth, s.tokens⟩ :: ·)
  | none, s :: rest =>
    match Indent.settle above s.indent with
    | .error _ => none
    | .ok above => (levels above none rest).map (⟨s.number, above.length, s.tokens⟩ :: ·)

variable {number : Nat} {opened : Nesting} {begun : Option Said} {raw : Text} {rest : List Text}

/-! ## One line more -/

theorem saidFrom_silent {o : Nesting} (h : tokens number opened raw = .ok ([], o)) :
    saidFrom number opened begun (raw :: rest) = saidFrom (number + 1) opened begun rest := by
  rw [saidFrom, h]

theorem saidFrom_ended {ts : List Token} (hts : ts ≠ [])
    (h : tokens number opened raw = .ok (ts, [])) :
    saidFrom number opened begun (raw :: rest) =
      (saidFrom (number + 1) [] none rest).map (Said.extend number raw ts begun :: ·) := by
  cases ts with
  | nil => exact absurd rfl hts
  | cons t ts => rw [saidFrom, h]; rfl

theorem saidFrom_begun {ts : List Token} (hts : ts ≠ []) {o : Nesting} (ho : o ≠ [])
    (h : tokens number opened raw = .ok (ts, o)) :
    saidFrom number opened begun (raw :: rest) =
      saidFrom (number + 1) o (some (Said.extend number raw ts begun)) rest := by
  cases ts with
  | nil => exact absurd rfl hts
  | cons t ts => rw [saidFrom, h]; exact if_neg (by simpa using ho)

theorem saidFrom_error {cause : SyntaxCause} (h : tokens number opened raw = .error cause) :
    saidFrom number opened begun (raw :: rest) = none := by
  rw [saidFrom, h]

/-- How lines say something, one line at a time: a line says nothing, ends what has been begun, or
goes on with the next line. -/
inductive SaysFrom : Nat → Nesting → Option Said → List Text → List Said → Prop
  | nil (number : Nat) (begun : Option Said) : SaysFrom number [] begun [] []
  | silent {number : Nat} {opened o : Nesting} {begun : Option Said} {raw : Text}
    {rest : List Text} {gs : List Said} (h : tokens number opened raw = .ok ([], o))
    (t : SaysFrom (number + 1) opened begun rest gs) : SaysFrom number opened begun (raw :: rest) gs
  | ended {number : Nat} {opened : Nesting} {begun : Option Said} {raw : Text} {rest : List Text}
    {ts : List Token} {gs : List Said} (hts : ts ≠ []) (h : tokens number opened raw = .ok (ts, []))
    (t : SaysFrom (number + 1) [] none rest gs) :
    SaysFrom number opened begun (raw :: rest) (Said.extend number raw ts begun :: gs)
  | begun {number : Nat} {opened o : Nesting} {begun : Option Said} {raw : Text}
    {rest : List Text} {ts : List Token} {gs : List Said} (hts : ts ≠ []) (ho : o ≠ [])
    (h : tokens number opened raw = .ok (ts, o))
    (t : SaysFrom (number + 1) o (some (Said.extend number raw ts begun)) rest gs) :
    SaysFrom number opened begun (raw :: rest) gs

theorem SaysFrom.of_saidFrom {raws : List Text} {gs : List Said}
    (h : saidFrom number opened begun raws = some gs) : SaysFrom number opened begun raws gs := by
  induction raws generalizing number opened begun gs with
  | nil =>
    rw [saidFrom] at h
    split at h
    · next ho =>
      cases h
      obtain rfl := List.isEmpty_iff.mp ho
      exact .nil number begun
    · cases h
  | cons raw raws ih =>
    cases htokens : tokens number opened raw with
    | error cause =>
      rw [saidFrom_error htokens] at h
      cases h
    | ok p =>
      obtain ⟨ts, o⟩ := p
      by_cases hts : ts = []
      · subst hts
        rw [saidFrom_silent htokens] at h
        exact .silent htokens (ih h)
      by_cases hnil : o = []
      · subst hnil
        rw [saidFrom_ended hts htokens] at h
        obtain ⟨rest, hrest, rfl⟩ := Option.map_eq_some_iff.mp h
        exact .ended hts htokens (ih hrest)
      · rw [saidFrom_begun hts hnil htokens] at h
        exact .begun hts hnil htokens (ih h)

/-- **A line that has been begun is ended**, if all brackets are closed in the end. -/
theorem exists_of_saidFrom {s : Said} {raws : List Text} {gs : List Said} (ho : opened ≠ [])
    (h : saidFrom number opened (some s) raws = some gs) :
    ∃ ts rest, gs = { s with tokens := s.tokens ++ ts } :: rest := by
  generalize hb : some s = begun at h
  replace h := SaysFrom.of_saidFrom h
  induction h generalizing s with
  | nil => exact absurd rfl ho
  | silent _ _ ih => exact ih ho hb
  | @ended _ _ _ _ _ ts gs => exact ⟨ts, gs, by rw [← hb]; rfl⟩
  | @begun _ _ _ _ _ _ ts gs _ hopen _ _ ih =>
    obtain ⟨us, rest, rfl⟩ := ih hopen rfl
    exact ⟨ts ++ us, rest, by simp [← hb, Said.extend]⟩

/-! ## Depths -/

/-- The line that has been begun, at its depth. -/
def Said.line (begun : Said × Nat) : Line := ⟨begun.1.number, begun.2, begun.1.tokens⟩

theorem toOption_map {ε α β : Type} (f : α → β) (x : Except ε α) :
    (x.map f).toOption = x.toOption.map f := by
  cases x <;> rfl

/-- The depth of a line that has just been begun. -/
theorem levels_begun {above above' : List Indent} {s : Said} {raws : List Text} (ho : opened ≠ [])
    (h : Indent.settle above s.indent = .ok above') :
    (saidFrom number opened (some s) raws).bind (levels above none) =
      (saidFrom number opened (some s) raws).bind (levels above' (some above'.length)) := by
  cases hs : saidFrom number opened (some s) raws with
  | none => rfl
  | some gs =>
    obtain ⟨ts, rest, rfl⟩ := exists_of_saidFrom ho hs
    simp [levels, h]

theorem levels_begun_error {above : List Indent} {s : Said} {raws : List Text} (ho : opened ≠ [])
    {cause : SyntaxCause} (h : Indent.settle above s.indent = .error cause) :
    (saidFrom number opened (some s) raws).bind (levels above none) = none := by
  cases hs : saidFrom number opened (some s) raws with
  | none => rfl
  | some gs =>
    obtain ⟨ts, rest, rfl⟩ := exists_of_saidFrom ho hs
    simp [levels, h]

theorem bind_levels_cons (above : List Indent) (depth : Nat) (s : Said) (gs? : Option (List Said)) :
    (gs?.map (s :: ·)).bind (levels above (some depth)) =
      (gs?.bind (levels above none)).map (⟨s.number, depth, s.tokens⟩ :: ·) := by
  cases gs? <;> rfl

theorem bind_levels_settled {above above' : List Indent} {s : Said}
    (h : Indent.settle above s.indent = .ok above') (gs? : Option (List Said)) :
    (gs?.map (s :: ·)).bind (levels above none) =
      (gs?.bind (levels above' none)).map (⟨s.number, above'.length, s.tokens⟩ :: ·) := by
  cases gs? with
  | none => rfl
  | some gs => simp [levels, h]

theorem bind_levels_error {above : List Indent} {s : Said} {cause : SyntaxCause}
    (h : Indent.settle above s.indent = .error cause) (gs? : Option (List Said)) :
    (gs?.map (s :: ·)).bind (levels above none) = none := by
  cases gs? with
  | none => rfl
  | some gs => simp [levels, h]

/-- Lines are what is said at its depth, whatever has been read above them. -/
def AreLeveled (raws : List Text) : Prop :=
  ∀ (number : Nat) (above : List Indent) (opened : Nesting) (begun : Option (Said × Nat)),
    (linesFrom number ⟨above, opened, begun.map Said.line⟩ raws).toOption =
      (saidFrom number opened (begun.map Prod.fst) raws).bind
        (levels above (begun.map Prod.snd))

section Leveled

variable {raws : List Text} {o : Nesting} {ts : List Token}

/-- A line that belongs to the one that has been begun: its own indentation does not count. -/
theorem AreLeveled.further (ih : AreLeveled raws) (hts : ts ≠ [])
    (htokens : tokens number opened raw = .ok (ts, o)) (above : List Indent) (s : Said)
    (depth : Nat) :
    (linesFrom number ⟨above, opened, some (Said.line (s, depth))⟩ (raw :: raws)).toOption =
      (saidFrom number opened (some s) (raw :: raws)).bind (levels above (some depth)) := by
  obtain ⟨t, ts, rfl⟩ := List.exists_cons_of_ne_nil hts
  rw [linesFrom, Reading.step, htokens]
  by_cases hnil : o = []
  · subst hnil
    have hrest : (linesFrom (number + 1) ⟨above, [], none⟩ raws).toOption = _ :=
      ih (number + 1) above [] none
    rw [saidFrom_ended hts htokens, bind_levels_cons]
    dsimp only [List.isEmpty_nil, if_true]
    rw [if_pos rfl]
    dsimp only
    rw [toOption_map, hrest]
    rfl
  · have hempty : o.isEmpty = false := by simpa using hnil
    rw [saidFrom_begun hts hnil htokens]
    dsimp only
    rw [hempty]
    exact ih (number + 1) above o (some (Said.extend number raw (t :: ts) (some s), depth))

/-- A line that begins another one, at the depth that its indentation gives. -/
theorem AreLeveled.first (ih : AreLeveled raws) (hts : ts ≠ [])
    (htokens : tokens number opened raw = .ok (ts, o)) (above : List Indent) :
    (linesFrom number ⟨above, opened, none⟩ (raw :: raws)).toOption =
      (saidFrom number opened none (raw :: raws)).bind (levels above none) := by
  obtain ⟨t, ts, rfl⟩ := List.exists_cons_of_ne_nil hts
  rw [linesFrom, Reading.step, htokens]
  dsimp only
  cases hsettle : Indent.settle above (Indent.ofLine raw) with
  | error cause =>
    by_cases hnil : o = []
    · subst hnil
      rw [saidFrom_ended hts htokens, bind_levels_error hsettle]
      rfl
    · rw [saidFrom_begun hts hnil htokens, levels_begun_error hnil hsettle]
      rfl
  | ok above' =>
    by_cases hnil : o = []
    · subst hnil
      have hrest : (linesFrom (number + 1) ⟨above', [], none⟩ raws).toOption = _ :=
        ih (number + 1) above' [] none
      rw [saidFrom_ended hts htokens, bind_levels_settled hsettle]
      dsimp only [List.isEmpty_nil]
      rw [if_pos rfl]
      dsimp only
      rw [toOption_map, hrest]
      rfl
    · have hempty : o.isEmpty = false := by simpa using hnil
      rw [saidFrom_begun hts hnil htokens, levels_begun hnil hsettle]
      dsimp only
      rw [hempty]
      exact ih (number + 1) above' o
        (some (Said.extend number raw (t :: ts) none, above'.length))

end Leveled

/-- **Lines are what is said at its depth**, by induction on the lines. -/
theorem areLeveled (raws : List Text) : AreLeveled raws := by
  induction raws with
  | nil =>
    intro number above opened begun
    rw [linesFrom, saidFrom]
    cases opened with
    | nil => rfl
    | cons p opened => rfl
  | cons raw raws ih =>
    intro number above opened begun
    cases htokens : tokens number opened raw with
    | error cause =>
      rw [linesFrom, Reading.step, htokens, saidFrom_error htokens]
      cases begun with
      | some b => rfl
      | none =>
        dsimp only [Option.map_none]
        cases Indent.settle above (Indent.ofLine raw) <;> rfl
    | ok p =>
      obtain ⟨ts, o⟩ := p
      by_cases hts : ts = []
      · subst hts
        rw [linesFrom, Reading.step, htokens, saidFrom_silent htokens]
        exact ih (number + 1) above opened begun
      cases begun with
      | some b => exact ih.further hts htokens above b.1 b.2
      | none => exact ih.first hts htokens above

/-- The lines of a text are what its lines say. -/
theorem lines_eq_ok_iff {s : Text} {ls : List Line} :
    lines s = .ok ls ↔
      ∃ gs, saidFrom 1 [] none (s.unixLines.splitAt '\n') = some gs ∧
        levels [] none gs = some ls := by
  have h := areLeveled (s.unixLines.splitAt '\n') 1 [] [] none
  rw [← Option.bind_eq_some_iff, lines, Reading.start]
  dsimp only [Option.map_none] at h
  rw [← h]
  cases linesFrom 1 ⟨[], [], none⟩ (s.unixLines.splitAt '\n') <;> simp [Except.toOption]

/-! ## Lines of their own -/

/-- A text that says some tokens on a line of its own and leaves brackets as they are. -/
def Says (raw : Text) (ts : List Token) : Prop :=
  ∀ number opened, tokens number opened raw = .ok (ts, opened)

theorem says_nil : Says [] [] := fun _ _ => rfl

theorem says_comment {indent : Text} (hi : ∀ c ∈ indent, isGap c = true) (r : Text) :
    Says (indent ++ '#' :: r) [] := by
  intro number opened
  rw [tokens_indent hi, tokens_comment]

theorem says_of_lexes {indent s : Text} {ts : List Token} (hi : ∀ c ∈ indent, isGap c = true)
    (hs : Lexes s ts [])
    (hc : ∀ number (opened : Nesting), opened.afterAll number ts = .ok opened) :
    Says (indent ++ s) ts := by
  intro number opened
  rw [tokens_indent hi]
  exact hs.tokens_eq_ok (hc number opened)

theorem indent_ofLine {indent : Text} (hi : ∀ c ∈ indent, isGap c = true) {c : Char}
    (hc : isGap c = false) (s : Text) :
    Indent.ofLine (indent ++ c :: s) = indent.foldl Indent.step .none := by
  rw [Indent.ofLine, List.takeWhile_append_of_pos hi]
  simp [List.takeWhile, hc]

/-! ## Indentations -/

/-- No other blank starts a token. -/
theorem next_of_isInlineBlank {c : Char} (h : isInlineBlank c = true) (hg : isGap c = false)
    (r : Text) : next c r = .error (.character c) := by
  have hcodes : ∀ c ∈ blankCodes.map Char.ofNat, isGap c = false → isLineEnd c = false →
      isQuote c = false ∧ Digits.isDigit c = false ∧ c ≠ '.' ∧ isNameStart c = false ∧
        c ≠ Quoted.backslash ∧ isMark c = false := by decide +kernel
  simp only [isInlineBlank, Bool.and_eq_true, Bool.not_eq_true', isBlank,
    List.contains_iff_mem] at h
  have hmem := List.mem_map_of_mem (f := Char.ofNat) h.1
  rw [Char.ofNat_toNat] at hmem
  obtain ⟨hquote, hdigit, hpoint, hname, hback, hmark⟩ := hcodes c hmem hg h.2
  simp [next, hquote, hdigit, hpoint, hname, hback, hmark]

/-- **A line of a program is indented with spaces, tabs and form feeds.** -/
theorem isGap_of_tokens {indent s : Text} {p : List Token × Nesting}
    (hi : ∀ c ∈ indent, isInlineBlank c = true)
    (h : tokens number opened (indent ++ s) = .ok p) : ∀ c ∈ indent, isGap c = true := by
  induction indent with
  | nil => simp
  | cons c indent ih =>
    obtain ⟨hc, hi'⟩ := List.forall_mem_cons.mp hi
    cases hg : isGap c with
    | true =>
      rw [List.cons_append, tokens_gap hg] at h
      exact List.forall_mem_cons.mpr ⟨hg, ih hi' h⟩
    | false =>
      have hsign : c ≠ '#' := by
        rintro rfl
        exact absurd hc (by decide)
      rw [List.cons_append, tokens_cons, if_neg (by simp [hg]), if_neg hsign,
        next_of_isInlineBlank hc hg] at h
      cases h

end Program

end Marginalia
