import Mathlib.Tactic.SplitIfs
import Mathlib.Tactic.Tauto
import Marginalia.Directive.Dump
import Marginalia.Proofs.Text.Words

/-!
# The parts of a directive

A directive comes apart into its indentation, the list between its brackets and what follows them.
It stands on one line: its indentation consists of blanks that end no line, its payload holds no
line end and starts with no blank. Whether a line is a directive does not depend on how far it is
indented.

## Main definitions

* `Directive.Parts`: the parts of a line around the brackets
* `Directive.Parts.IsProper`: the parts that make a directive

## Main results

* `Directive.ofLine?_line`: proper parts make a directive
* `Directive.exists_parts_of_ofLine?`: a directive has proper parts
* `Directive.isInlineBlank_of_mem_indent`, `Directive.oneLine_payload`: the parts of a
  directive stand on one line
* `Directive.ofLine?_indent`: indentation makes no directive
* `DumpEntry.isSeparator_of_mem_expression`: an expression holds neither blanks nor commas
-/

namespace Marginalia

namespace Directive

/-- The parts of a line around the brackets. -/
structure Parts where
  /-- What stands in front of the marker. -/
  indent : Text
  /-- What stands between the brackets. -/
  list : Text
  /-- What follows the brackets. -/
  rest : Text
  deriving DecidableEq, Repr

namespace Parts

/-- The line that the parts make. -/
def line (p : Parts) : Text := p.indent ++ (marker ++ (p.list ++ ']' :: p.rest))

/-- The parts that make a directive. -/
structure IsProper (p : Parts) : Prop where
  /-- The indentation consists of blanks. -/
  indent : ∀ c ∈ p.indent, isBlank c = true
  /-- No bracket stands between the brackets. -/
  list : ∀ c ∈ p.list, c ≠ '[' ∧ c ≠ ']'
  /-- Something that is no separator stands there. -/
  names : ∃ c ∈ p.list, isSeparator c = false

/-- The directive that the parts make. -/
def directive (p : Parts) : Directive :=
  ⟨p.indent, tagsOf p.list, (kindOf p.rest).1, (kindOf p.rest).2.strip⟩

/-- A line of parts is one line exactly when the parts are. -/
theorem oneLine_line_iff {p : Parts} :
    p.line.OneLine ↔ p.indent.OneLine ∧ p.list.OneLine ∧ p.rest.OneLine := by
  have hmarker : ∀ c ∈ marker, isLineEnd c = false := by decide
  have hclose : isLineEnd ']' = false := by decide
  unfold line Text.OneLine
  simp only [List.forall_mem_append, List.forall_mem_cons]
  tauto

end Parts

theorem isLineEnd_of_isInlineBlank {c : Char} (h : isInlineBlank c = true) :
    isLineEnd c = false := by
  simp only [isInlineBlank, Bool.and_eq_true, Bool.not_eq_true'] at h
  exact h.2

theorem isBlank_of_isInlineBlank {c : Char} (h : isInlineBlank c = true) : isBlank c = true := by
  simp only [isInlineBlank, Bool.and_eq_true] at h
  exact h.1

theorem isInlineBlank_of_isBlank {c : Char} (h : isBlank c = false) : isInlineBlank c = false := by
  simp [isInlineBlank, h]

theorem dropWhile_indent {indent s : Text} (hi : ∀ c ∈ indent, isInlineBlank c = true)
    (hs : ∀ c, s.head? = some c → isInlineBlank c = false) :
    (indent ++ s).dropWhile isInlineBlank = s := by
  rw [List.dropWhile_append_of_pos hi, Text.dropWhile_of_head? hs]

theorem takeWhile_indent {indent s : Text} (hi : ∀ c ∈ indent, isInlineBlank c = true)
    (hs : ∀ c, s.head? = some c → isInlineBlank c = false) :
    (indent ++ s).takeWhile isInlineBlank = indent := by
  rw [List.takeWhile_append_of_pos hi, Text.takeWhile_of_head? hs, List.append_nil]

theorem ofParts?_eq_some {indent list rest : Text} {d : Directive}
    (h : ofParts? indent list rest = some d) : d = Parts.directive ⟨indent, list, rest⟩ := by
  unfold ofParts? at h
  dsimp only at h
  split at h
  · simp at h
  · exact (Option.some.inj h).symm

theorem endsHere_iff {t : Text} : endsHere t = true ↔ t = [] ∨ t = ['\n'] := by
  simp [endsHere, Bool.or_eq_true, List.isEmpty_iff, beq_iff_eq]

/-- **Proper parts make a directive**, and a line feed may end the line. -/
theorem ofLine?_line {p : Parts} (hp : p.IsProper) (h : p.line.OneLine) {t : Text}
    (ht : endsHere t = true) : ofLine? (p.line ++ t) = some p.directive := by
  obtain ⟨hindent, hlist, hrest⟩ := Parts.oneLine_line_iff.mp h
  have hblank : ∀ c ∈ p.indent, isInlineBlank c = true := fun c hc => by
    simp [isInlineBlank, hp.indent c hc, hindent c hc]
  have hin : ∀ c ∈ p.list, inBrackets c = true := fun c hc => by
    simp [inBrackets, hp.list c hc, hlist c hc]
  have hone : ∀ c ∈ p.rest, (!isLineEnd c) = true := fun c hc => by simp [hrest c hc]
  have hend : ∀ c ∈ t.head?, (!isLineEnd c) = false := by
    rcases endsHere_iff.mp ht with rfl | rfl
    · simp
    · simp [isLineEnd]
  have hsharp : ∀ s, ∀ c, (marker ++ s).head? = some c → isInlineBlank c = false := by
    intro s c hc
    obtain rfl : '#' = c := Option.some.inj hc
    decide
  have hbody : ∀ s, (p.list ++ ']' :: s).dropWhile inBrackets = ']' :: s := fun s => by
    rw [List.dropWhile_append_of_pos hin]
    rfl
  have hnames : ¬ (tagsOf p.list).isEmpty = true := by
    rw [List.isEmpty_iff, tagsOf, Text.words_eq_nil_iff]
    obtain ⟨c, hc, hsep⟩ := hp.names
    exact fun hall => by simp [hall c hc] at hsep
  have hline : p.line ++ t = p.indent ++ (marker ++ (p.list ++ ']' :: (p.rest ++ t))) := by
    simp [Parts.line]
  -- reading takes the longest run of each kind, and each part is such a run
  unfold ofLine?
  rw [hline, dropWhile_indent hblank (hsharp _), takeWhile_indent hblank (hsharp _),
    Text.after?_eq_some_iff.mpr rfl]
  dsimp only
  rw [hbody]
  change (if endsHere ((p.rest ++ t).dropWhile (!isLineEnd ·)) = true then _ else _) = _
  rw [List.dropWhile_append_of_pos hone, Text.dropWhile_of_head? hend, if_pos ht,
    List.takeWhile_append_of_pos hin, List.takeWhile_append_of_pos hone,
    Text.takeWhile_of_head? hend, List.takeWhile_cons_of_neg (by decide), List.append_nil,
    List.append_nil, ofParts?]
  exact if_neg hnames

/-- **A directive has proper parts**, and a line feed may end its line. -/
theorem exists_parts_of_ofLine? {line : Text} {d : Directive} (h : ofLine? line = some d) :
    ∃ (p : Parts) (t : Text), p.IsProper ∧ p.line.OneLine ∧ endsHere t = true ∧
      line = p.line ++ t ∧ d = p.directive := by
  unfold ofLine? at h
  split at h
  · cases h
  next body hbody =>
  split at h
  · next tail htail =>
    split at h
    · next hends =>
      -- what is taken from the front of the line, of the list and of the rest is in good form
      have hdrop := Text.after?_eq_some_iff.mp hbody
      have hblank : ∀ c ∈ line.takeWhile isInlineBlank, isInlineBlank c = true :=
        List.all_eq_true.mp List.all_takeWhile
      have hin : ∀ c ∈ body.takeWhile inBrackets, (c ≠ '[' ∧ c ≠ ']') ∧ isLineEnd c = false := by
        intro c hc
        have hb := List.all_eq_true.mp List.all_takeWhile c hc
        simpa [inBrackets] using hb
      have hone : ∀ c ∈ tail.takeWhile (!isLineEnd ·), isLineEnd c = false := fun c hc => by
        simpa using List.all_eq_true.mp List.all_takeWhile c hc
      have hd := ofParts?_eq_some h
      -- there is a name, hence a character in the list that separates nothing
      have hnames : tagsOf (body.takeWhile inBrackets) ≠ [] := by
        have hne := tags_ne_nil_of_ofParts? h
        rwa [hd] at hne
      rw [tagsOf, Ne, Text.words_eq_nil_iff, not_forall] at hnames
      obtain ⟨c, hc⟩ := hnames
      refine ⟨⟨line.takeWhile isInlineBlank, body.takeWhile inBrackets,
        tail.takeWhile (!isLineEnd ·)⟩, tail.dropWhile (!isLineEnd ·),
        ⟨fun c hc => isBlank_of_isInlineBlank (hblank c hc), fun c hc => (hin c hc).1,
          c, by simpa using hc⟩,
        Parts.oneLine_line_iff.mpr ⟨fun c hc => isLineEnd_of_isInlineBlank (hblank c hc),
          fun c hc => (hin c hc).2, hone⟩, hends, ?_, hd⟩
      calc line = line.takeWhile isInlineBlank ++ line.dropWhile isInlineBlank :=
            List.takeWhile_append_dropWhile.symm
        _ = line.takeWhile isInlineBlank ++ (marker ++ (body.takeWhile inBrackets ++
            body.dropWhile inBrackets)) := by rw [hdrop, List.takeWhile_append_dropWhile]
        _ = line.takeWhile isInlineBlank ++ (marker ++ (body.takeWhile inBrackets ++
            ']' :: (tail.takeWhile (!isLineEnd ·) ++ tail.dropWhile (!isLineEnd ·)))) := by
              rw [htail, List.takeWhile_append_dropWhile]
        _ = _ := by simp [Parts.line]
    · cases h
  · cases h

theorem mem_of_mem_kindOf {rest : Text} {c : Char} (h : c ∈ (kindOf rest).2) : c ∈ rest := by
  cases rest with
  | nil => simp [kindOf] at h
  | cons d r =>
    simp only [kindOf] at h
    split_ifs at h
    · exact List.mem_cons_of_mem _ h
    · exact List.mem_cons_of_mem _ h
    · exact h

variable {line : Text} {d : Directive}

/-- **The indentation of a directive** consists of blanks that end no line. -/
theorem isInlineBlank_of_mem_indent (h : ofLine? line = some d) {c : Char} (hc : c ∈ d.indent) :
    isInlineBlank c = true := by
  obtain ⟨p, t, hp, hone, -, -, rfl⟩ := exists_parts_of_ofLine? h
  simp [isInlineBlank, hp.indent c hc, (Parts.oneLine_line_iff.mp hone).1 c hc]

theorem oneLine_indent (h : ofLine? line = some d) : d.indent.OneLine := fun _ hc =>
  isLineEnd_of_isInlineBlank (isInlineBlank_of_mem_indent h hc)

/-- **The payload of a directive** stands on one line. -/
theorem oneLine_payload (h : ofLine? line = some d) : d.payload.OneLine := by
  intro c hc
  obtain ⟨p, t, -, hone, -, -, rfl⟩ := exists_parts_of_ofLine? h
  exact (Parts.oneLine_line_iff.mp hone).2.2 c (mem_of_mem_kindOf (Text.mem_of_mem_trim hc))

/-- The payload of a directive starts with no blank. -/
theorem isBlank_head_payload (h : ofLine? line = some d) {c : Char}
    (hc : d.payload.head? = some c) : isBlank c = false := by
  obtain ⟨p, t, -, -, -, -, rfl⟩ := exists_parts_of_ofLine? h
  exact Text.head?_trim hc

/-- A directive is a number sign and more behind its indentation. -/
theorem exists_eq_indent_append (h : ofLine? line = some d) :
    ∃ r, line = d.indent ++ '#' :: r := by
  obtain ⟨p, t, -, -, -, rfl, rfl⟩ := exists_parts_of_ofLine? h
  exact ⟨'#' :: '[' :: (p.list ++ ']' :: p.rest) ++ t,
    by simp [Parts.line, Parts.directive, marker]⟩

/-- A directive stands on one line, but for a line feed that may end it. -/
theorem oneLine_or_of_ofLine? (h : ofLine? line = some d) :
    line.OneLine ∨ ∃ l, line = l ++ ['\n'] := by
  obtain ⟨p, t, -, hone, ht, rfl, -⟩ := exists_parts_of_ofLine? h
  rcases endsHere_iff.mp ht with rfl | rfl
  · exact Or.inl (by simpa using hone)
  · exact Or.inr ⟨_, rfl⟩

/-- A text that starts with no number sign is no directive. -/
theorem ofLine?_eq_none {s : Text} (h : (s.dropWhile isInlineBlank).head? ≠ some '#') :
    ofLine? s = none := by
  have hm : Text.after? marker (s.dropWhile isInlineBlank) = none := by
    cases hs : s.dropWhile isInlineBlank with
    | nil => rfl
    | cons c r =>
      rw [hs] at h
      have hc : '#' ≠ c := fun hc => h (by simp [← hc])
      simp [marker, Text.after?, hc]
  simp [ofLine?, hm]

/-- Whether parts make a directive does not depend on the indentation. -/
theorem ofParts?_isNone (indent indent' list rest : Text) :
    (ofParts? indent list rest).isNone = (ofParts? indent' list rest).isNone := by
  unfold ofParts?
  dsimp only
  split <;> rfl

/-- **Indentation makes no directive.** -/
theorem ofLine?_indent {indent s : Text} (hi : ∀ c ∈ indent, isInlineBlank c = true)
    (hs : ∀ c, s.head? = some c → isInlineBlank c = false) :
    (ofLine? (indent ++ s)).isNone = (ofLine? s).isNone := by
  have hself : ([] ++ s).dropWhile isInlineBlank = s := dropWhile_indent (by simp) hs
  rw [List.nil_append] at hself
  unfold ofLine?
  rw [dropWhile_indent hi hs, hself]
  split
  · rfl
  · split
    · split
      · exact ofParts?_isNone ..
      · rfl
    · rfl

/-- **The body of a line that is a directive** stands on one line. -/
theorem oneLine_body {piece : Text} (h : ofLine? (Rewrite.body piece) = some d) :
    (Rewrite.body piece).OneLine := by
  rcases oneLine_or_of_ofLine? h with hone | ⟨l, hl⟩
  · exact hone
  · have hlast : (Rewrite.body piece).getLast? = some '\n' := by rw [hl]; simp
    exact absurd (Text.getLast?_dropEndWhile hlast) (by decide)

end Directive

namespace DumpEntry

variable {payload : Text} {e : DumpEntry}

theorem mem_of_named? {name? : Option Text} {s : Text} (h : named? name? s = some e) {c : Char}
    (hc : c ∈ e.expression) : c ∈ s := by
  unfold named? at h
  dsimp only at h
  split at h
  · simp at h
  · obtain rfl := Option.some.inj h
    exact (List.dropWhile_sublist _).mem hc

theorem mem_of_label? {token label rest : Text} (h : label? token = some (label, rest)) {c : Char}
    (hc : c ∈ rest) : c ∈ token := by
  unfold label? at h
  dsimp only at h
  split at h
  · simp at h
  · next d r hd =>
    split at h
    · obtain ⟨-, rfl⟩ := Prod.mk.inj (Option.some.inj h)
      have hmem : c ∈ token.dropWhile isWord := by rw [hd]; exact List.mem_cons_of_mem _ hc
      exact (List.dropWhile_sublist _).mem hmem
    · simp at h

/-- An expression is a part of its token. -/
theorem mem_of_ofToken? {token : Text} (h : ofToken? token = some e) {c : Char}
    (hc : c ∈ e.expression) : c ∈ token := by
  unfold ofToken? at h
  split at h
  · next hl => exact mem_of_label? hl (mem_of_named? h hc)
  · exact mem_of_named? h hc

/-- **An expression of a dump holds neither blanks nor commas.** -/
theorem isSeparator_of_mem_expression (h : e ∈ ofPayload payload) {c : Char}
    (hc : c ∈ e.expression) : Directive.isSeparator c = false := by
  obtain ⟨token, ht, he⟩ := List.mem_filterMap.mp h
  exact (Text.mem_words ht).2 c (mem_of_ofToken? he hc)

theorem oneLine_expression (h : e ∈ ofPayload payload) : e.expression.OneLine := by
  intro c hc
  have hs := isSeparator_of_mem_expression h hc
  cases hl : isLineEnd c with
  | false => rfl
  | true => simp [Directive.isSeparator, isBlank_of_isLineEnd hl] at hs

end DumpEntry

end Marginalia
