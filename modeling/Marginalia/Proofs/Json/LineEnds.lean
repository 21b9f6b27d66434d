import Mathlib.Data.List.Find
import Marginalia.Proofs.Fault
import Marginalia.Proofs.Json.Scalar
import Marginalia.Proofs.Json.Soundness
import Marginalia.Proofs.Text.RawLines

/-!
# Line ends in JSON

A JSON text reads the same however its lines end. Between tokens a line end is a gap, a numeral or
a word stops in front of one, and inside a string every line end is a control character and as wrong
as any other. What changes is where tokens stand, so that a fault keeps its complaint and may move.

## Main definitions

* `Json.ReadFault.unplaced`, `Json.Token.unplaced`: faults and tokens, wherever they stand
* `Json.heard`: the code units of a string and what follows it

## Main results

* `Json.heard_stringFrom_unixLines`: strings hold no line ends
* `Json.next_unixLines`: a token does not depend on line ends
* `Json.mapError_step`: a step of reading does not depend on where its token stands
* `Json.read_unixLines`: reading does not depend on line ends
-/

namespace Marginalia

namespace Json

variable {c : Char} {p p' : Pending} {r s : Text}

/-- The fault, wherever it is. -/
def ReadFault.unplaced : ReadFault → ReadFault
  | malformed complaint _ => malformed complaint 0
  | tooLong digits => tooLong digits

/-- The token, wherever it is broken. -/
def Token.unplaced : Token → Token
  | broken e => broken e.unplaced
  | t => t

/-- The escape, wherever it starts. -/
def Pending.unmarked : Pending → Pending
  | none => none
  | backslash => backslash
  | code _ left value => code 0 left value

/-! ## Strings -/

/-- The code units of a string and what follows it, or what is wrong with it. -/
def heard (x : Except ReadFault Units) : Except ReadFault (List Nat × Text) :=
  (x.mapError ReadFault.unplaced).map fun u => (u.1, u.2.2)

theorem heard_unit (n : Nat) (x : Except ReadFault Units) :
    heard (unit n x) = (heard x).map fun u => (n :: u.1, u.2) := by
  cases x <;> rfl

/-- What is wrong with a string that goes on with a line end. -/
def lineEndFault : Pending → Complaint
  | .none => .control
  | .backslash => .escape
  | .code _ _ _ => .codeEscape

theorem heard_stringFrom_lineEnd (hc : isLineEnd c = true) (first pos : Nat) (p : Pending)
    (r : Text) :
    heard (stringFrom first pos p (c :: r)) = .error (.malformed (lineEndFault p) 0) := by
  have hc : c = '\n' ∨ c = '\r' := by simpa [isLineEnd] using hc
  cases p <;> rcases hc with rfl | rfl <;> rfl

/-- **Strings hold no line ends**: a string is the same, or as wrong, whatever ends the lines, and
what follows it is the same but for its own line ends. -/
theorem heard_stringFrom_unixLines (first first' pos pos' : Nat) (s : Text)
    (hp : p'.unmarked = p.unmarked) :
    heard (stringFrom first' pos' p' s.unixLines) =
      (heard (stringFrom first pos p s)).map fun u => (u.1, u.2.unixLines) := by
  induction s generalizing pos pos' p p' with
  | nil =>
    rw [Text.unixLines_nil]
    cases p <;> cases p' <;> cases hp <;> rfl
  | cons c r ih =>
    by_cases hc : isLineEnd c = true
    · -- one line end or the other, the string is wrong here
      obtain ⟨t, ht⟩ := Text.exists_unixLines_cons hc r
      rw [ht, heard_stringFrom_lineEnd rfl, heard_stringFrom_lineEnd hc]
      cases p <;> cases p' <;> cases hp <;> rfl
    · -- any other character stays, and leaves the same escape in both strings
      have hcr : c ≠ '\r' := Text.ne_cr (by simpa using hc)
      have hempty : (Text.unixLines r).isEmpty = r.isEmpty := by
        rw [Bool.eq_iff_iff, List.isEmpty_iff, List.isEmpty_iff, Text.unixLines_eq_nil_iff]
      have hunit : ∀ n, heard (unit n (stringFrom first' (pos' + 1) .none (Text.unixLines r))) =
          (heard (unit n (stringFrom first (pos + 1) .none r))).map
            fun u => (u.1, u.2.unixLines) := by
        intro n
        rw [heard_unit, heard_unit, ih (pos + 1) (pos' + 1) rfl]
        cases heard (stringFrom first (pos + 1) .none r) <;> rfl
      rw [Text.unixLines_cons hcr]
      cases p with
      | none =>
        cases p' <;> cases hp
        rw [stringFrom, stringFrom]
        split_ifs
        · rfl
        · exact ih _ _ rfl
        · rfl
        · exact hunit _
      | backslash =>
        cases p' <;> cases hp
        rw [stringFrom, stringFrom]
        split_ifs
        · exact ih _ _ rfl
        · cases letterEscape? c with
          | none => rfl
          | some n => exact hunit n
      | code mark left value =>
        cases p' <;> cases hp
        rw [stringFrom, stringFrom]
        cases Digits.hexValue? c with
        | none => rfl
        | some d =>
          dsimp only
          rw [hempty]
          split_ifs
          · exact ih _ _ rfl
          · rfl
          · exact hunit _

/-! ## Numerals and words -/

/-- The piece stands at the front of the text, on one line. -/
def Fronts (a s : Text) : Prop := a <+: s ∧ a.OneLine

theorem fronts_nil (s : Text) : Fronts [] s := ⟨List.nil_prefix, Text.OneLine.nil⟩

theorem fronts_singleton (hc : isLineEnd c = false) (r : Text) : Fronts [c] (c :: r) :=
  ⟨⟨r, rfl⟩, List.forall_mem_singleton.mpr hc⟩

theorem fronts_takeWhile_isDigit (s : Text) : Fronts (s.takeWhile Digits.isDigit) s :=
  ⟨List.takeWhile_prefix _,
    Text.OneLine.of_forall ⟨rfl, rfl⟩ (List.all_eq_true.mp List.all_takeWhile)⟩

theorem Fronts.append {a b : Text} (ha : Fronts a s) (hb : Fronts b (s.drop a.length)) :
    Fronts (a ++ b) s := by
  obtain ⟨⟨t, rfl⟩, haline⟩ := ha
  obtain ⟨hfront, hbline⟩ := hb
  rw [List.drop_left] at hfront
  exact ⟨List.prefix_append_right_inj _ |>.mpr hfront, haline.append hbline⟩

theorem Fronts.drop_unixLines {a : Text} (h : Fronts a s) :
    s.unixLines.drop a.length = Text.unixLines (s.drop a.length) :=
  Text.drop_unixLines h.1 h.2

namespace Numeral

theorem fronts_wholeOf (s : Text) : Fronts (wholeOf s) s :=
  have h := wholeOf_prefix s
  ⟨h.1, Text.OneLine.of_forall ⟨rfl, rfl⟩ h.2⟩

theorem fronts_fractionOf (s : Text) : Fronts (fractionOf s) s := by
  unfold fractionOf
  split
  · next r =>
    dsimp only
    split
    · exact fronts_nil _
    · exact (fronts_singleton rfl r).append (fronts_takeWhile_isDigit r)
  · exact fronts_nil _

theorem fronts_signOf (s : Text) : Fronts (signOf s) s := by
  unfold signOf
  split
  · exact fronts_singleton rfl _
  · exact fronts_singleton rfl _
  · exact fronts_nil _

theorem fronts_exponentOf (s : Text) : Fronts (exponentOf s) s := by
  unfold exponentOf
  split
  · exact fronts_nil _
  · next c r =>
    dsimp only
    split
    · next h =>
      have hc : isLineEnd c = false := by rcases h.1 with rfl | rfl <;> rfl
      rw [List.cons_append]
      exact (fronts_singleton hc r).append
        ((fronts_signOf r).append (fronts_takeWhile_isDigit _))
    · exact fronts_nil _

/-! Every part of a numeral stops in front of a line end. -/

theorem wholeOf_unixLines (s : Text) : wholeOf s.unixLines = wholeOf s := by
  apply Text.apply_unixLines
  · exact fun _ => rfl
  · exact fun _ => rfl
  · intro c r hc _
    have htake := Text.takeWhile_unixLines (p := Digits.isDigit) rfl rfl (c :: r)
    rw [Text.unixLines_cons (Text.ne_cr hc)] at htake
    by_cases hzero : c = '0'
    · rw [hzero]
      rfl
    · simpa [wholeOf, hzero] using htake

theorem fractionOf_unixLines (s : Text) : fractionOf s.unixLines = fractionOf s := by
  apply Text.apply_unixLines
  · exact fun _ => rfl
  · exact fun _ => rfl
  · intro c r _ _
    by_cases hpoint : c = '.'
    · rw [hpoint, fractionOf, fractionOf, Text.takeWhile_unixLines rfl rfl]
    · simp [fractionOf, hpoint]

theorem signOf_unixLines (s : Text) : signOf s.unixLines = signOf s := by
  apply Text.apply_unixLines
  · exact fun _ => rfl
  · exact fun _ => rfl
  · -- nothing behind the first character is looked at
    intro c r _ _
    unfold signOf
    split <;> simp_all

theorem exponentOf_unixLines (s : Text) : exponentOf s.unixLines = exponentOf s := by
  apply Text.apply_unixLines
  · exact fun _ => by simp [exponentOf]
  · exact fun _ => by simp [exponentOf]
  · intro c r _ _
    rw [exponentOf, exponentOf, signOf_unixLines, (fronts_signOf r).drop_unixLines,
      Text.takeWhile_unixLines rfl rfl]

end Numeral

theorem afterSign?_unixLines (negative : Bool) (s : Text) :
    afterSign? negative s.unixLines = afterSign? negative s := by
  have hfraction := Numeral.fronts_fractionOf (s.drop (Numeral.wholeOf s).length)
  unfold afterSign?
  dsimp only
  rw [Numeral.wholeOf_unixLines, (Numeral.fronts_wholeOf s).drop_unixLines,
    Numeral.fractionOf_unixLines, hfraction.drop_unixLines, Numeral.exponentOf_unixLines]

/-- What is cut from the front of a text as a numeral. -/
theorem fronts_of_afterSign? {negative : Bool} {n : Numeral} (h : afterSign? negative s = some n) :
    n.negative = negative ∧ Fronts (n.whole ++ n.fraction ++ n.exponent) s := by
  unfold afterSign? at h
  split at h
  · cases h
  · obtain rfl := Option.some.inj h
    have hwhole := Numeral.fronts_wholeOf s
    have hfraction := Numeral.fronts_fractionOf (s.drop (Numeral.wholeOf s).length)
    have hexponent := Numeral.fronts_exponentOf ((s.drop (Numeral.wholeOf s).length).drop
      (Numeral.fractionOf (s.drop (Numeral.wholeOf s).length)).length)
    refine ⟨rfl, ?_⟩
    rw [List.append_assoc]
    exact hwhole.append (hfraction.append hexponent)

theorem atFront?_unixLines (s : Text) : Numeral.atFront? s.unixLines = Numeral.atFront? s := by
  apply Text.apply_unixLines
  · exact fun _ => rfl
  · exact fun _ => rfl
  · intro c r hc _
    by_cases hminus : c = '-'
    · rw [hminus, atFront?_minus, atFront?_minus, afterSign?_unixLines]
    · have hplain := afterSign?_unixLines false (c :: r)
      rw [Text.unixLines_cons (Text.ne_cr hc)] at hplain
      rw [atFront?_of_ne hminus, atFront?_of_ne hminus, hplain]

theorem fronts_text {n : Numeral} (h : Numeral.atFront? s = some n) : Fronts n.text s := by
  cases s with
  | nil => cases h
  | cons c r =>
    by_cases hminus : c = '-'
    · rw [hminus, atFront?_minus] at h
      obtain ⟨hnegative, hfronts⟩ := fronts_of_afterSign? h
      rw [Numeral.text, hnegative, if_pos rfl, List.append_assoc, List.append_assoc,
        ← List.append_assoc n.whole, hminus]
      exact (fronts_singleton rfl r).append hfronts
    · rw [atFront?_of_ne hminus] at h
      obtain ⟨hnegative, hfronts⟩ := fronts_of_afterSign? h
      rw [Numeral.text, hnegative]
      exact hfronts

theorem oneLine_of_mem_wordValues {word : Text × Value} (h : word ∈ wordValues) :
    word.1.OneLine := by
  have hall : ∀ word ∈ wordValues, ∀ c ∈ word.1, isLineEnd c = false := by decide
  exact hall word h

theorem wordAtFront?_unixLines (s : Text) : wordAtFront? s.unixLines = wordAtFront? s := by
  refine List.find?_congr fun word hword => ?_
  rw [Bool.eq_iff_iff, startsWith_iff, startsWith_iff,
    Text.prefix_unixLines_iff (oneLine_of_mem_wordValues hword)]

theorem fronts_word {word : Text × Value} (h : wordAtFront? s = some word) : Fronts word.1 s := by
  have hstarts := List.find?_some h
  exact ⟨startsWith_iff.mp hstarts, oneLine_of_mem_wordValues (List.mem_of_find?_eq_some h)⟩

/-! ## Tokens -/

/-- **A word or a numeral does not depend on line ends.** -/
theorem plainToken_unixLines (pos pos' : Nat) (s : Text) :
    (plainToken pos' s.unixLines).1 = (plainToken pos s).1 ∧
      (plainToken pos' s.unixLines).2.2 = Text.unixLines (plainToken pos s).2.2 := by
  unfold plainToken
  rw [wordAtFront?_unixLines, atFront?_unixLines]
  cases hword : wordAtFront? s with
  | some word => exact ⟨rfl, (fronts_word hword).drop_unixLines⟩
  | none =>
    dsimp only
    cases hnumeral : Numeral.atFront? s with
    | some n => exact ⟨rfl, (fronts_text hnumeral).drop_unixLines⟩
    | none => exact ⟨rfl, Text.unixLines_nil.symm⟩

/-- A string as a token. -/
theorem stringToken_unixLines (first first' : Nat) (s : Text) :
    (stringToken first' s.unixLines).1.unplaced = (stringToken first s).1.unplaced ∧
      (stringToken first' s.unixLines).2.2 = Text.unixLines (stringToken first s).2.2 := by
  have hnone : Pending.none.unmarked = Pending.none.unmarked := rfl
  have hheard := heard_stringFrom_unixLines first first' (first + 1) (first' + 1) s hnone
  unfold stringToken
  cases hs : stringFrom first (first + 1) .none s with
  | error e =>
    rw [hs] at hheard
    cases hs' : stringFrom first' (first' + 1) .none s.unixLines with
    | error e' =>
      rw [hs'] at hheard
      have he : e'.unplaced = e.unplaced := Except.error.inj hheard
      exact ⟨congrArg Token.broken he, Text.unixLines_nil.symm⟩
    | ok u' =>
      rw [hs'] at hheard
      cases hheard
  | ok u =>
    rw [hs] at hheard
    cases hs' : stringFrom first' (first' + 1) .none s.unixLines with
    | error e' =>
      rw [hs'] at hheard
      cases hheard
    | ok u' =>
      rw [hs'] at hheard
      obtain ⟨hunits, hrest⟩ := Prod.mk.inj (Except.ok.inj hheard)
      exact ⟨congrArg (fun units => Token.text (characters units)) hunits, hrest⟩

/-- **A token does not depend on line ends**, and what follows it is the same but for them. -/
theorem next_unixLines (hc : c ≠ '\r') (pos pos' : Nat) (r : Text) :
    (next pos' c (Text.unixLines r)).1.unplaced = (next pos c r).1.unplaced ∧
      (next pos' c (Text.unixLines r)).2.2 = Text.unixLines (next pos c r).2.2 := by
  unfold next
  cases punctuation? c with
  | some token => exact ⟨rfl, rfl⟩
  | none =>
    dsimp only
    split_ifs
    · exact stringToken_unixLines pos pos' r
    · have hplain := plainToken_unixLines pos pos' (c :: r)
      rw [Text.unixLines_cons hc] at hplain
      exact ⟨congrArg Token.unplaced hplain.1, hplain.2⟩

/-! ## Readers -/

theorem mapError_beginValue (frames : List Frame) (complaint : ReadFault) (t : Token) :
    (beginValue frames complaint t).mapError ReadFault.unplaced =
      beginValue frames complaint.unplaced t.unplaced := by
  cases t <;> rfl

theorem mapError_beginMember (frames : List Frame) (entries : Entries) (complaint : ReadFault)
    (t : Token) :
    (beginMember frames entries complaint t).mapError ReadFault.unplaced =
      beginMember frames entries complaint.unplaced t.unplaced := by
  cases t with
  | broken e => cases e <;> rfl
  | _ => rfl

theorem mapError_follow (v : Value) (frames : List Frame) (complaint : ReadFault) (frame : Frame)
    (t : Token) :
    (follow v frames complaint frame t).mapError ReadFault.unplaced =
      follow v frames complaint.unplaced frame t.unplaced := by
  cases frame <;> cases t <;> rfl

/-- **A step of reading does not depend on where its token stands.** -/
theorem mapError_step (reader : Reader) (t : Placed) :
    (step reader t).mapError ReadFault.unplaced = step reader ⟨0, t.token.unplaced⟩ := by
  obtain ⟨frames, stage⟩ := reader
  obtain ⟨pos, t⟩ := t
  cases stage with
  | value => exact mapError_beginValue _ _ t
  | firstItem => cases t <;> rfl
  | firstKey =>
    cases t with
    | broken e => cases e <;> rfl
    | _ => rfl
  | key entries => exact mapError_beginMember _ _ _ t
  | colon entries key => cases t <;> rfl
  | after v =>
    cases frames with
    | nil => rfl
    | cons frame frames => exact mapError_follow _ _ _ _ t

/-- **A reader does not depend on line ends**, nor on where it stands. -/
theorem Reader.scan_unixLines (reader : Reader) (pos pos' : Nat) (s : Text) :
    (reader.scan pos' s.unixLines).mapError ReadFault.unplaced =
      (reader.scan pos s).mapError ReadFault.unplaced := by
  induction hn : s.length using Nat.strongRecOn generalizing reader pos pos' s with
  | ind n ih =>
    subst hn
    cases s with
    | nil => rw [Text.unixLines_nil]; rfl
    | cons c r =>
      -- whatever is read first, no more than `r` is left
      have hrest : ∀ (reader : Reader) (pos pos' : Nat) {t : Text}, t.length ≤ r.length →
          (reader.scan pos' t.unixLines).mapError ReadFault.unplaced =
            (reader.scan pos t).mapError ReadFault.unplaced := fun reader pos pos' t ht =>
        ih t.length (Nat.lt_succ_of_le ht) reader pos pos' t rfl
      by_cases hcr : c = '\r'
      · -- a carriage return is one gap, together with the line feed behind it or alone
        subst hcr
        rcases Text.unixLines_cons_cr r with h | ⟨t, rfl, h⟩
        · rw [h, scan_cons_gap rfl, scan_cons_gap rfl]
          exact hrest _ _ _ (Nat.le_refl _)
        · rw [h, scan_cons_gap rfl, scan_cons_gap rfl, scan_cons_gap rfl]
          exact hrest _ _ _ (Nat.le_succ _)
      · rw [Text.unixLines_cons hcr]
        by_cases hgap : isGap c = true
        · rw [scan_cons_gap hgap, scan_cons_gap hgap]
          exact hrest _ _ _ (Nat.le_refl _)
        · obtain ⟨htoken, hleft⟩ := next_unixLines hcr pos pos' r
          have hstep : (step reader ⟨pos', (next pos' c (Text.unixLines r)).1⟩).mapError
              ReadFault.unplaced =
                (step reader ⟨pos, (next pos c r).1⟩).mapError ReadFault.unplaced := by
            rw [mapError_step, mapError_step, htoken]
          have hgap : isGap c = false := by simpa using hgap
          rw [scan_cons_eq hgap, scan_cons_eq hgap, hleft]
          exact mapError_bind_congr hstep fun reader => hrest _ _ _ (length_next pos c r)

/-! ## Whole texts -/

theorem Reader.mapError_finish (reader : Reader) (stop stop' : Nat) :
    (reader.finish stop').mapError ReadFault.unplaced =
      (reader.finish stop).mapError ReadFault.unplaced := by
  unfold finish
  split <;> rfl

theorem head?_unixLines_eq_byteOrderMark (s : Text) :
    (s.unixLines.head? = some byteOrderMark) = (s.head? = some byteOrderMark) := by
  apply Text.apply_unixLines (g := fun s : Text => s.head? = some byteOrderMark)
  · simp [byteOrderMark]
  · simp [byteOrderMark]
  · exact fun _ _ _ _ => rfl

theorem read_eq_bind (h : s.head? ≠ some byteOrderMark) :
    read s = (Reader.start.scan 0 s).bind fun reader => reader.finish s.length := by
  have hscan : Reader.start.scan 0 s = runFrom Reader.start (tokens s) := rfl
  rw [read, if_neg h, hscan]
  cases runFrom Reader.start (tokens s) <;> rfl

/-- **Reading does not depend on line ends.** However the lines of a text end, between tokens,
inside strings or where the text is wrong, it has the same value, or the same complaint somewhere,
or the same number of digits that are too many. -/
theorem read_unixLines (s : Text) :
    (read s.unixLines).mapError ReadFault.unplaced = (read s).mapError ReadFault.unplaced := by
  have hhead := head?_unixLines_eq_byteOrderMark s
  by_cases hmark : s.head? = some byteOrderMark
  · rw [read, read, if_pos hmark, if_pos (hhead.mpr hmark)]
  · rw [read_eq_bind hmark, read_eq_bind (mt hhead.mp hmark)]
    exact mapError_bind_congr (Reader.scan_unixLines Reader.start 0 0 s) fun reader =>
      reader.mapError_finish _ _

end Json

end Marginalia
