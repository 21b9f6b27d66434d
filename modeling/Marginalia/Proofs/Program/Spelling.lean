import Marginalia.Invocation
import Marginalia.Proofs.Program.Lexing

/-!
# Spellings of tokens

What a line of source text is written with comes back as tokens: the literal of a text, a name, a
mark, the digits of a number, and lists of them with commas between neighbours.

## Main definitions

* `Program.loneMarks`: marks that start no other token
* `Program.Spells`: a text that stands for some tokens
* `Program.joinedTokens`: tokens with commas between neighbours

## Main results

* `Program.lexes_write`, `Program.lexes_word`, `Program.lexes_decimal`: what single tokens are
  written as
* `Program.lexes_joined`: what lists of tokens are written as
-/

namespace Marginalia

namespace Program

variable {c : Char} {r s : Text} {ts : List Token}

/-! ## Single tokens -/

theorem isGap_eq_false_of_isQuote (h : Quoted.IsQuote c) : isGap c = false := by
  rcases h with rfl | rfl <;> decide

theorem isQuote_of_isQuote (h : Quoted.IsQuote c) : isQuote c = true := by
  rcases h with rfl | rfl <;> decide

theorem ne_numberSign_of_isQuote (h : Quoted.IsQuote c) : c ≠ '#' := by
  rcases h with rfl | rfl <;> decide

/-- Three quotes in a row are an empty text and a quote behind it. -/
theorem isTriple_eq_false_of_read? {q : Char} (hq : isQuote q = true) {x u : Text}
    (h : Quoted.read? q x = some (u, r)) (hr : Follows r) : isTriple q x = false := by
  rw [Bool.eq_false_iff]
  intro htriple
  unfold isTriple at htriple
  split at htriple
  · next c d y =>
    simp only [Bool.and_eq_true, beq_iff_eq] at htriple
    obtain ⟨rfl, rfl⟩ := htriple
    have hempty : Quoted.read? d (d :: d :: y) = some ([], d :: y) := by
      rw [Quoted.read?, Quoted.readFrom, if_pos rfl]
    cases hempty.symm.trans h
    exact hr.ne_of_isQuote hq rfl rfl
  · cases htriple

/-- **The literal of a text** stands for the text, whichever characters it shows as themselves. -/
theorem lexes_write (shown : Char → Bool) (s : Text) (hr : Follows r) :
    Lexes (Quoted.write shown s ++ r) [.text s] r := by
  obtain ⟨q, t, hq, hw, hread⟩ := Quoted.read?_write shown s r
  have htriple := isTriple_eq_false_of_read? (isQuote_of_isQuote hq) hread hr
  rw [hw, List.cons_append]
  refine .single (isGap_eq_false_of_isQuote hq) (ne_numberSign_of_isQuote hq) ?_
  rw [next, if_pos (isQuote_of_isQuote hq), hread]
  exact literal_some htriple s

/-- The marks that start no other token. -/
def loneMarks : List Char := ['(', ')', '[', ']', ',', ':', ';', '-', '\x7b', '\x7d']

theorem lexes_mark (h : c ∈ loneMarks) (r : Text) :
    Lexes (c :: r) [.mark c] r := by
  have hgap : isGap c = false := (by decide : ∀ c ∈ _, isGap c = false) c h
  have hsign : c ≠ '#' := (by decide : ∀ c ∈ _, c ≠ '#') c h
  have hquote : isQuote c = false := (by decide : ∀ c ∈ _, isQuote c = false) c h
  have hdigit : Digits.isDigit c = false := (by decide : ∀ c ∈ _, Digits.isDigit c = false) c h
  have hpoint : c ≠ '.' := (by decide : ∀ c ∈ _, c ≠ '.') c h
  have hname : isNameStart c = false := (by decide : ∀ c ∈ _, isNameStart c = false) c h
  have hback : c ≠ Quoted.backslash := (by decide : ∀ c ∈ _, c ≠ Quoted.backslash) c h
  have hmark : isMark c = true := (by decide : ∀ c ∈ _, isMark c = true) c h
  refine .single hgap hsign ?_
  simp [next, hquote, hdigit, hpoint, hname, hback, hmark]

/-- A point in front of what is no digit. -/
theorem lexes_point (h : r.head?.any Digits.isDigit = false) : Lexes ('.' :: r) [.mark '.'] r := by
  refine .single (by decide) (by decide) ?_
  have hquote : isQuote '.' = false := by decide
  have hdigit : Digits.isDigit '.' = false := by decide
  have hname : isNameStart '.' = false := by decide
  have hback : '.' ≠ Quoted.backslash := by decide
  have hmark : isMark '.' = true := by decide
  simp [next, hquote, hdigit, h, hname, hback, hmark]

/-- What may start a word. -/
def startsWord (c : Char) : Bool :=
  isNameStart c && !isGap c && c != '#' && !isQuote c && !Digits.isDigit c && c != '.'

/-- **A word** in front of what no word goes on with. -/
theorem lexes_word (hc : startsWord c = true) (hs : ∀ d ∈ s, isNameChar d = true)
    (hr : ∀ d, r.head? = some d → isNameChar d = false ∧ isQuote d = false) :
    Lexes (c :: s ++ r) [word (c :: s)] r := by
  simp only [startsWord, Bool.and_eq_true, Bool.not_eq_true', bne_iff_ne] at hc
  obtain ⟨⟨⟨⟨⟨hname, hgap⟩, hsign⟩, hquote⟩, hdigit⟩, hpoint⟩ := hc
  refine .single hgap hsign ?_
  have htake : (s ++ r).takeWhile isNameChar = s := by
    rw [List.takeWhile_append_of_pos hs]
    cases r with
    | nil => simp
    | cons d r => simp [List.takeWhile, (hr d rfl).1]
  have hdrop : (s ++ r).dropWhile isNameChar = r := by
    rw [List.dropWhile_append_of_pos hs]
    cases r with
    | nil => rfl
    | cons d r => simp [List.dropWhile, (hr d rfl).1]
  rw [next, if_neg (by simp [hquote]), if_neg (by simp [hdigit, hpoint]), if_pos hname,
    List.append_eq, htake, hdrop]
  cases r with
  | nil => rfl
  | cons d r => simp [wordOrLiteral, (hr d rfl).2]

/-- Whether a text is a name that is its own normal form. -/
def isPlainName (w : Text) : Bool :=
  w.head?.any startsWord && w.tail.all isNameChar && !keywords.contains w && w.all isAscii

/-- **A name** in front of what no word goes on with. -/
theorem lexes_name {w : Text} (hw : isPlainName w = true)
    (hr : ∀ d, r.head? = some d → isNameChar d = false ∧ isQuote d = false) :
    Lexes (w ++ r) [.name w] r := by
  simp only [isPlainName, Bool.and_eq_true, Bool.not_eq_true'] at hw
  obtain ⟨⟨⟨hstart, htail⟩, hkey⟩, hascii⟩ := hw
  have hword : word w = .name w := by
    rw [word, if_neg (by rw [hkey]; decide), Text.normal_of_ascii hascii]
  cases w with
  | nil => cases hstart
  | cons c s =>
    rw [← hword]
    exact lexes_word hstart (List.all_eq_true.mp htail) hr

/-! ## Numbers -/

theorem numeralRun_digits {ds : Text} (hd : ∀ c ∈ ds, Digits.isDigit c = true) (hr : Follows r) :
    numeralRun false true false (ds ++ r) = (ds, r) := by
  induction ds with
  | nil =>
    have h := numeralRun_append hr false true false []
    simpa [numeralRun] using h
  | cons c ds ih =>
    have hc := hd c List.mem_cons_self
    have hexp : (c == 'e' || c == 'E') = false := by
      simp only [Digits.isDigit, Bool.and_eq_true, decide_eq_true_eq] at hc
      simp only [Bool.or_eq_false_iff, beq_eq_false_iff_ne]
      constructor <;> (rintro rfl; exact absurd hc (by decide))
    rw [List.cons_append, numeralRun, if_pos (inNumeral_of_isDigit hc), hexp]
    simp [ih fun d h => hd d (List.mem_cons_of_mem _ h)]

/-- Decimal digits are a numeral without the letter of a base. -/
theorem numeral_digits {ds : Text} (hd : ∀ c ∈ ds, Digits.isDigit c = true) :
    numeral ds = numeral.plain ds := by
  unfold numeral
  split
  · next c ds =>
    have hc := hd c (by simp)
    have hne : ∀ d ∈ ['x', 'X', 'o', 'O', 'b', 'B'], c ≠ d := by
      intro d hmem hcd
      rw [hcd] at hc
      exact (by decide : ∀ d ∈ _, ¬ Digits.isDigit d = true) d hmem hc
    simp only [List.forall_mem_cons] at hne
    simp [hne]
  · rfl

/-- The digits of a number are its numeral, unless there are too many. -/
theorem numeral_decimal {n : Nat} (hl : Digits.tooLong n = false) :
    numeral (Digits.decimal n) = .ok (.numeral n) := by
  have hd := Digits.decimal_isDigit n
  have hlow : '_' ∉ Digits.decimal n := fun h => absurd (hd _ h) (by decide)
  have hlen : ¬ Digits.maxDigits < (Digits.decimal n).length := by
    simpa [Digits.tooLong] using hl
  rw [numeral_digits hd, numeral.plain, Digits.ungrouped?_of_notMem _ hlow]
  simp only [List.all_eq_true.mpr hd, if_true]
  rw [whole]
  simp only [Digits.valueOf_decimal]
  rw [if_neg fun h => Digits.head?_decimal h.2 h.1, if_neg hlen]

/-- **The digits of a number**, unless there are too many. -/
theorem lexes_decimal {n : Nat} (hl : Digits.tooLong n = false) (hr : Follows r) :
    Lexes (Digits.decimal n ++ r) [.numeral n] r := by
  have hd := Digits.decimal_isDigit n
  have hnumeral := numeral_decimal hl
  cases hds : Digits.decimal n with
  | nil => exact absurd hds (Digits.decimal_ne_nil n)
  | cons c ds =>
    rw [hds] at hd hnumeral
    obtain ⟨hc, hdigits⟩ := List.forall_mem_cons.mp hd
    have hother : ∀ d, Digits.isDigit d = false → c ≠ d := by
      rintro d hd rfl
      rw [hd] at hc
      cases hc
    have hgap : isGap c = false := by
      have hform : c.toNat ≠ 0x0c := fun h => by
        simp [Digits.isDigit, h] at hc
      simp [isGap, hother ' ' (by decide), hother '\t' (by decide), hform]
    have hquote : isQuote c = false := by
      simp [isQuote, hother Quoted.single (by decide), hother Quoted.double (by decide)]
    have hbase : hasBase (c :: (ds ++ r)) = false := by
      have hletter : ∀ d ∈ "xXoObB".toList, Digits.isDigit d = false := by decide
      rw [hasBase_append hr, hasBase_cons, Bool.and_eq_false_iff]
      right
      -- neither is a letter of a base a digit, nor does it follow a token
      cases ds with
      | nil => rfl
      | cons d ds =>
        have hdigit := hdigits d List.mem_cons_self
        rw [List.head?_cons, Option.any_some, Bool.eq_false_iff]
        intro hmem
        rw [hletter d (List.contains_iff_mem.mp hmem)] at hdigit
        cases hdigit
    refine .single hgap (hother '#' (by decide)) ?_
    rw [next, if_neg (by simp [hquote]), if_pos (Or.inl hc), List.append_eq, hbase,
      ← List.cons_append, numeralRun_digits hd hr]
    dsimp only
    rw [hnumeral]
    rfl

/-! ## Lists of tokens -/

/-- A text that stands for some tokens in front of what may follow any token. -/
def Spells (s : Text) (ts : List Token) : Prop := ∀ r, Follows r → Lexes (s ++ r) ts r

/-- Tokens with commas between neighbours. -/
def joinedTokens : List (List Token) → List Token
  | [] => []
  | [part] => part
  | part :: next :: rest => part ++ .mark ',' :: joinedTokens (next :: rest)

theorem lexes_space {rest : Text} (h : Lexes s ts rest) : Lexes (' ' :: s) ts rest :=
  .gap (by decide) h

/-- **A list of spellings** with commas between neighbours. -/
theorem lexes_joined {parts : List (Text × List Token)} (h : ∀ p ∈ parts, Spells p.1 p.2)
    (hr : Follows r) :
    Lexes (Text.joined commaSpace (parts.map Prod.fst) ++ r)
      (joinedTokens (parts.map Prod.snd)) r := by
  induction parts with
  | nil => exact .nil r
  | cons p rest ih =>
    have hp := h p List.mem_cons_self
    have hrest := ih fun q hq => h q (List.mem_cons_of_mem _ hq)
    cases rest with
    | nil => exact hp r hr
    | cons q rest =>
      have hcomma :
          Follows (',' :: ' ' :: (Text.joined commaSpace ((q :: rest).map Prod.fst) ++ r)) :=
        follows_cons (by decide) _
      have hstep := (hp _ hcomma).append ((lexes_mark (by decide) _).append (lexes_space hrest))
      simpa [commaSpace, joinedTokens] using hstep

end Program

end Marginalia
