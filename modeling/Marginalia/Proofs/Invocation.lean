import Marginalia.Invocation
import Marginalia.Proofs.Directive.Parts
import Marginalia.Proofs.Text.Quoted

/-!
# The line of an invocation

Destinations and formats are names: a text, or none. An invocation under such a tag has a line of
source text, unless its trace depth has more digits than are written out, and what stands in the
place of a directive is no directive again.

## Main definitions

* `Value.IsName`, `Tag.IsNamed`: destinations and formats that are a text or none
* `Invocation.line`: the line of an invocation

## Main results

* `Invocation.source_eq`: the source text of an invocation is its line
* `Directive.oneLine_of_replacement`, `Directive.ofLine?_of_replacement`: what stands in the place
  of a directive stands on one line and is no directive
* `Directive.replacement_fault`: the only fault is a trace depth of too many digits
-/

namespace Marginalia

/-- The values that name a destination or a format. -/
inductive Value.IsName : Value → Prop
  | none : IsName .none
  | text (s : Text) : IsName (.text s)

instance : (v : Value) → Decidable v.IsName
  | .none => .isTrue .none
  | .text s => .isTrue (.text s)
  | .bool _ | .int _ | .float _ | .bytes _ | .foreign _ | .list _ | .tuple _ | .set _ | .dict _
  | .shared _ _ => .isFalse nofun

/-- A tag whose destination and format are names. -/
structure Tag.IsNamed (tag : Tag) : Prop where
  target : tag.target.IsName
  format : tag.format.IsName

instance (tag : Tag) : Decidable tag.IsNamed :=
  decidable_of_iff (tag.target.IsName ∧ tag.format.IsName)
    ⟨fun h => ⟨h.1, h.2⟩, fun h => ⟨h.target, h.format⟩⟩

/-- The literal of a name. -/
def Value.nameText : Value → Text
  | .text s => quote s
  | _ => "None".toList

theorem Value.IsName.literal {v : Value} (h : v.IsName) : v.literal = .ok v.nameText := by
  cases h <;> rfl

namespace Invocation

theorem importWord_eq : importWord = ['_', '_', 'i', 'm', 'p', 'o', 'r', 't', '_', '_'] := rfl

/-! ## The line -/

/-- The call without its trace. -/
def mainText (i : Invocation) : Text :=
  match i.call with
  | .message s => callText messageFunction [i.target.nameText, quote s]
  | .dump entries => callText dumpFunction [i.target.nameText, i.format.nameText, tableText entries]
  | .exec _ => []

/-- The call that shows calling frames. -/
def traceText (i : Invocation) : Text :=
  callText traceFunction [i.target.nameText, Digits.decimalInt i.depth, i.format.nameText]

/-- The line of an invocation: the call, and the trace where the depth asks for one. -/
def line (i : Invocation) : Text :=
  if i.depth ≤ 0 then i.mainText else i.mainText ++ callSeparator ++ i.traceText

variable {i : Invocation}

theorem callSource_eq (ht : i.target.IsName) (hf : i.format.IsName) (hk : i.call.kind ≠ .exec) :
    callSource i.target.literal i.format.literal i.call = .ok i.mainText := by
  rw [ht.literal, hf.literal, mainText]
  cases hc : i.call with
  | message s => rfl
  | dump entries => rfl
  | exec code => exact absurd (by rw [hc]; rfl) hk

theorem traceSource_error {depth : Int} {e : RenderFault} (h : spellInt depth = .error e)
    (t f : Text) : traceSource (.ok t) depth (.ok f) = .error (.literal e) := by
  simp [traceSource, h]

theorem traceSource_ok {depth : Int} {s : Text} (h : spellInt depth = .ok s) (t f : Text) :
    traceSource (.ok t) depth (.ok f) = .ok (callText traceFunction [t, s, f]) := by
  simp [traceSource, h]

/-- **The source text of an invocation is its line**, unless the trace depth has too many digits. -/
theorem source_eq (ht : i.target.IsName) (hf : i.format.IsName) (hk : i.call.kind ≠ .exec) :
    i.source = if 0 < i.depth ∧ Digits.tooLong i.depth = true then
        .error (.literal .tooManyDigits) else .ok i.line := by
  rw [source, callSource_eq ht hf hk, line]
  dsimp only
  by_cases hd : i.depth ≤ 0
  · rw [if_pos hd, if_pos hd, if_neg fun h => by omega]
  · rw [if_neg hd, if_neg hd, ht.literal, hf.literal]
    by_cases hl : Digits.tooLong i.depth = true
    · have hs : spellInt i.depth = .error .tooManyDigits := if_pos hl
      rw [traceSource_error hs, if_pos ⟨by omega, hl⟩]
    · have hs : spellInt i.depth = .ok (Digits.decimalInt i.depth) := if_neg hl
      rw [traceSource_ok hs, if_neg fun h => hl h.2]
      rfl

/-! ## The line in other scripts

Which characters beyond ASCII a literal shows as themselves depends on the tables of printable
characters. Here they are a parameter. -/

/-- The literal of a name that shows some characters as themselves. -/
def nameTextIn (shown : Char → Bool) : Value → Text
  | .text s => Quoted.write shown s
  | _ => "None".toList

/-- A dictionary of expressions whose names show some characters as themselves. -/
def tableTextIn (shown : Char → Bool) (entries : List DumpEntry) : Text :=
  openBrace ++ Text.joined commaSpace
    (entries.map fun e => Quoted.write shown e.name ++ colonSpace ++ e.expression) ++ closeBrace

/-- The call without its trace. -/
def mainTextIn (shown : Char → Bool) (i : Invocation) : Text :=
  match i.call with
  | .message s => callText messageFunction [nameTextIn shown i.target, Quoted.write shown s]
  | .dump entries =>
    callText dumpFunction
      [nameTextIn shown i.target, nameTextIn shown i.format, tableTextIn shown entries]
  | .exec _ => []

/-- The call that shows calling frames. -/
def traceTextIn (shown : Char → Bool) (i : Invocation) : Text :=
  callText traceFunction
    [nameTextIn shown i.target, Digits.decimalInt i.depth, nameTextIn shown i.format]

/-- The line of an invocation whose literals show some characters as themselves. -/
def lineIn (shown : Char → Bool) (i : Invocation) : Text :=
  if i.depth ≤ 0 then i.mainTextIn shown
  else i.mainTextIn shown ++ callSeparator ++ i.traceTextIn shown

/-- The line of an invocation shows the printable characters as themselves. -/
theorem line_eq_lineIn (i : Invocation) : i.line = i.lineIn isPrintable := by
  have hname : ∀ v : Value, v.nameText = nameTextIn isPrintable v := fun v => by cases v <;> rfl
  simp only [line, lineIn, mainText, mainTextIn, traceText, traceTextIn, hname]
  rfl

section Characters

variable {shown : Char → Bool} {p : Char → Prop} (hp : ∀ c : Char, 0x20 ≤ c.toNat → p c)

include hp

theorem forall_mem_callText {function : Text} (hf : ∀ c ∈ function, 0x20 ≤ c.toNat)
    {arguments : List Text} (ha : ∀ s ∈ arguments, ∀ c ∈ s, p c) :
    ∀ c ∈ callText function arguments, p c := by
  have hlibrary : ∀ c ∈ library, 0x20 ≤ c.toNat := by decide
  have hcomma : ∀ c ∈ commaSpace, 0x20 ≤ c.toNat := by decide
  intro c hc
  simp only [callText, List.mem_append, List.mem_singleton] at hc
  rcases hc with (((hc | hc) | rfl) | hc) | rfl
  · exact hp c (hlibrary c hc)
  · exact hp c (hf c hc)
  · exact hp _ (by decide)
  · rcases Text.mem_joined hc with hc | ⟨s, hs, hc⟩
    · exact hp c (hcomma c hc)
    · exact ha s hs c hc
  · exact hp _ (by decide)

theorem forall_mem_nameTextIn (v : Value) : ∀ c ∈ nameTextIn shown v, p c := by
  have hnone : ∀ c ∈ "None".toList, 0x20 ≤ c.toNat := by decide
  intro c hc
  unfold nameTextIn at hc
  split at hc
  · exact hp c (Quoted.le_toNat_of_mem_write hc)
  · exact hp c (hnone c hc)

theorem forall_mem_tableTextIn {entries : List DumpEntry}
    (he : ∀ e ∈ entries, ∀ c ∈ e.expression, p c) : ∀ c ∈ tableTextIn shown entries, p c := by
  have hmarks : ∀ c ∈ openBrace ++ commaSpace ++ colonSpace ++ closeBrace, 0x20 ≤ c.toNat := by
    decide
  intro c hc
  simp only [tableTextIn, List.mem_append] at hc
  rcases hc with (hc | hc) | hc
  · exact hp c (hmarks c (by simp [hc]))
  · rcases Text.mem_joined hc with hc | ⟨s, hs, hc⟩
    · exact hp c (hmarks c (by simp [hc]))
    · obtain ⟨e, hmem, rfl⟩ := List.mem_map.mp hs
      simp only [List.mem_append] at hc
      rcases hc with (hc | hc) | hc
      · exact hp c (Quoted.le_toNat_of_mem_write hc)
      · exact hp c (hmarks c (by simp [hc]))
      · exact he e hmem c hc
  · exact hp c (hmarks c (by simp [hc]))

theorem forall_mem_mainTextIn {i : Invocation}
    (hc : ∀ entries, i.call = .dump entries → ∀ e ∈ entries, ∀ c ∈ e.expression, p c) :
    ∀ c ∈ i.mainTextIn shown, p c := by
  unfold mainTextIn
  split
  · refine forall_mem_callText hp (by decide) ?_
    simp only [List.forall_mem_cons]
    exact ⟨forall_mem_nameTextIn hp _, fun c hc => hp c (Quoted.le_toNat_of_mem_write hc), by simp⟩
  · next entries he =>
    refine forall_mem_callText hp (by decide) ?_
    simp only [List.forall_mem_cons]
    exact ⟨forall_mem_nameTextIn hp _, forall_mem_nameTextIn hp _,
      forall_mem_tableTextIn hp (hc entries he), by simp⟩
  · simp

theorem forall_mem_traceTextIn (i : Invocation) : ∀ c ∈ i.traceTextIn shown, p c := by
  have hdigits : ∀ n, ∀ c ∈ Digits.decimal n, p c := fun n c hc => by
    have hd := Digits.decimal_isDigit n c hc
    simp only [Digits.isDigit, Bool.and_eq_true, decide_eq_true_eq] at hd
    exact hp c (by omega)
  have hdepth : ∀ c ∈ Digits.decimalInt i.depth, p c := by
    cases i.depth with
    | ofNat n => exact hdigits n
    | negSucc n => exact List.forall_mem_cons.mpr ⟨hp _ (by decide), hdigits _⟩
  refine forall_mem_callText hp (by decide) ?_
  simp only [List.forall_mem_cons]
  exact ⟨forall_mem_nameTextIn hp _, hdepth, forall_mem_nameTextIn hp _, by simp⟩

/-- **The characters of an invocation** are those of its expressions, and others that are no control
characters. -/
theorem forall_mem_lineIn {i : Invocation}
    (hc : ∀ entries, i.call = .dump entries → ∀ e ∈ entries, ∀ c ∈ e.expression, p c) :
    ∀ c ∈ i.lineIn shown, p c := by
  have hseparator : ∀ c ∈ callSeparator, 0x20 ≤ c.toNat := by decide
  unfold lineIn
  split
  · exact forall_mem_mainTextIn hp hc
  · simp only [List.forall_mem_append]
    exact ⟨⟨forall_mem_mainTextIn hp hc, fun c hc => hp c (hseparator c hc)⟩,
      forall_mem_traceTextIn hp i⟩

end Characters

/-- **An invocation stands on one line** if the expressions of its dump do. -/
theorem oneLine_lineIn (shown : Char → Bool) (hc : ∀ entries, i.call = .dump entries →
    ∀ e ∈ entries, e.expression.OneLine) : (i.lineIn shown).OneLine := by
  refine forall_mem_lineIn (fun c h => ?_) hc
  exact Quoted.isLineEnd_eq_false_of_lt (by omega)

theorem oneLine_line (hc : ∀ entries, i.call = .dump entries →
    ∀ e ∈ entries, e.expression.OneLine) : i.line.OneLine :=
  i.line_eq_lineIn ▸ oneLine_lineIn isPrintable hc

/-- A call starts with the import of the library. -/
theorem exists_lineIn_eq_library (shown : Char → Bool) (hk : i.call.kind ≠ .exec) :
    ∃ s, i.lineIn shown = library ++ s := by
  have hcall : ∃ s, i.mainTextIn shown = library ++ s := by
    unfold mainTextIn callText
    split
    · exact ⟨_, by simp only [List.append_assoc]; rfl⟩
    · exact ⟨_, by simp only [List.append_assoc]; rfl⟩
    · next hc => exact absurd (by rw [hc]; rfl) hk
  obtain ⟨s, hs⟩ := hcall
  unfold lineIn
  split
  · exact ⟨s, hs⟩
  · exact ⟨s ++ (callSeparator ++ i.traceTextIn shown), by simp [hs]⟩

theorem exists_line_eq_library (hk : i.call.kind ≠ .exec) : ∃ s, i.line = library ++ s :=
  i.line_eq_lineIn ▸ exists_lineIn_eq_library isPrintable hk

/-- A call starts with the word that imports the library. -/
theorem exists_line_eq (hk : i.call.kind ≠ .exec) : ∃ s, i.line = importWord ++ '(' :: s := by
  obtain ⟨s, hs⟩ := exists_line_eq_library hk
  exact ⟨quote libraryName ++ [')', '.'] ++ s, by simp [hs, library, Text.enclosed]⟩

end Invocation

/-! ## What stands in the place of a directive -/

namespace Directive

variable {d : Directive} {tag : Tag} {execEnabled : Bool}

theorem kind_call : d.call.kind = d.kind := by
  unfold call
  cases d.kind <;> rfl

theorem kind_invocation (hk : d.kind ≠ .exec) : (d.invocation tag).call.kind ≠ .exec := by
  rwa [invocation, kind_call]

/-- A message or a dump is replaced by its call. -/
theorem replacement_of_ne_exec (hk : d.kind ≠ .exec) :
    d.replacement tag execEnabled = (d.invocation tag).source.map (d.indent ++ ·) := by
  unfold replacement
  split
  · next h => exact absurd h hk
  · rfl

/-- Code is replaced by itself, or vanishes. -/
theorem replacement_of_exec (hk : d.kind = .exec) :
    d.replacement tag execEnabled =
      .ok (if execEnabled && (ofLine? d.payload).isNone then d.indent ++ d.payload else []) := by
  rw [replacement, hk]
  dsimp only
  split <;> rfl

/-- What stands in the place of a directive that is no code. -/
theorem replacement_eq (ht : tag.IsNamed) (hk : d.kind ≠ .exec) :
    d.replacement tag execEnabled = if 0 < tag.depth ∧ Digits.tooLong tag.depth = true then
        .error (.literal .tooManyDigits) else .ok (d.indent ++ (d.invocation tag).line) := by
  have hsource := Invocation.source_eq (i := d.invocation tag) ht.target ht.format
    (kind_invocation hk)
  rw [replacement_of_ne_exec hk, hsource, show (d.invocation tag).depth = tag.depth from rfl]
  split
  · rfl
  · rfl

theorem oneLine_invocation : (d.invocation tag).line.OneLine := by
  refine Invocation.oneLine_line fun entries he e hmem => ?_
  have hcall : d.call = .dump entries := he
  unfold call at hcall
  split at hcall
  · cases hcall
  · cases hcall
    exact DumpEntry.oneLine_expression hmem
  · cases hcall

/-- **The only fault** of what stands in the place of a directive is a trace depth of too many
digits. -/
theorem replacement_fault (ht : tag.IsNamed) {e : InvocationFault}
    (h : d.replacement tag execEnabled = .error e) : e = .literal .tooManyDigits := by
  by_cases hk : d.kind = .exec
  · rw [replacement_of_exec hk] at h
    cases h
  · rw [replacement_eq ht hk] at h
    split at h
    · exact (Except.error.inj h).symm
    · cases h

/-- A depth of few digits leaves no fault. -/
theorem exists_replacement (d : Directive) (execEnabled : Bool) (ht : tag.IsNamed)
    (hd : Digits.tooLong tag.depth = false) :
    ∃ r, d.replacement tag execEnabled = .ok r := by
  by_cases hk : d.kind = .exec
  · exact ⟨_, replacement_of_exec hk⟩
  · rw [replacement_eq ht hk, if_neg (by simp [hd])]
    exact ⟨_, rfl⟩

/-- What stands in the place of a directive: its indentation and a call or code, or nothing. -/
theorem replacement_cases (ht : tag.IsNamed) {r : Text}
    (h : d.replacement tag execEnabled = .ok r) :
    (d.kind ≠ .exec ∧ r = d.indent ++ (d.invocation tag).line) ∨
      (d.kind = .exec ∧ (ofLine? d.payload).isNone = true ∧ r = d.indent ++ d.payload) ∨
      (d.kind = .exec ∧ r = []) := by
  by_cases hk : d.kind = .exec
  · rw [replacement_of_exec hk] at h
    obtain rfl := Except.ok.inj h
    split
    · next hc =>
      rw [Bool.and_eq_true] at hc
      exact Or.inr (Or.inl ⟨hk, hc.2, rfl⟩)
    · exact Or.inr (Or.inr ⟨hk, rfl⟩)
  · rw [replacement_eq ht hk] at h
    split at h
    · cases h
    · exact Or.inl ⟨hk, (Except.ok.inj h).symm⟩

variable {s r : Text}

/-- **What stands in the place of a directive stands on one line.** -/
theorem oneLine_of_replacement (hs : ofLine? s = some d) (ht : tag.IsNamed)
    (h : d.replacement tag execEnabled = .ok r) : r.OneLine := by
  rcases replacement_cases ht h with ⟨-, rfl⟩ | ⟨-, -, rfl⟩ | ⟨-, rfl⟩
  · exact (oneLine_indent hs).append oneLine_invocation
  · exact (oneLine_indent hs).append (oneLine_payload hs)
  · exact Text.OneLine.nil

/-- **What stands in the place of a directive is no directive.** -/
theorem ofLine?_of_replacement (hs : ofLine? s = some d) (ht : tag.IsNamed)
    (h : d.replacement tag execEnabled = .ok r) : ofLine? r = none := by
  have hi : ∀ c ∈ d.indent, isInlineBlank c = true := fun c => isInlineBlank_of_mem_indent hs
  rcases replacement_cases ht h with ⟨hk, rfl⟩ | ⟨-, hp, rfl⟩ | ⟨-, rfl⟩
  · obtain ⟨t, hl⟩ := Invocation.exists_line_eq (i := d.invocation tag) (kind_invocation hk)
    have hhead : (d.invocation tag).line.head? = some '_' := by
      rw [hl, Invocation.importWord_eq]
      rfl
    refine ofLine?_eq_none ?_
    rw [dropWhile_indent hi, hhead]
    · decide
    · intro c hc
      rw [hhead] at hc
      cases hc
      decide
  · have hn := ofLine?_indent hi (s := d.payload) fun c hc =>
      isInlineBlank_of_isBlank (isBlank_head_payload hs hc)
    rw [hp] at hn
    exact Option.isNone_iff_eq_none.mp hn
  · rfl

end Directive

end Marginalia
