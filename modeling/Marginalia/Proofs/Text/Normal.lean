import Marginalia.Text.NameChar
import Marginalia.Text.Normal

/-!
# Normal forms hold no marks

Characters that are taken apart and put together again make letters, digits and combining marks.
Among the characters of ASCII a normal form has letters, digits and low lines only, where the text
has no others.

## Main definitions

* `isPlain`: characters that are no marks of ASCII

## Main results

* `isPlain_of_isNameChar`: the characters of names
* `Text.isPlain_of_mem_normal`: the characters of normal forms
-/

namespace Marginalia

/-- Whether the character is a letter, a digit or a low line, or none of ASCII. -/
def isPlain (c : Char) : Bool := !isAscii c || c.isAlphanum || c == '_'

theorem isPlain_of_isNameChar {c : Char} (h : isNameChar c = true) : isPlain c = true := by
  by_cases hc : c.toNat < 0x80
  · simp only [isNameChar, isNameStart, hc, if_true, Bool.or_eq_true] at h
    rcases h with (h | h) | h
    · simp [isPlain, Char.isAlphanum, h]
    · simp [isPlain, h]
    · simp [isPlain, Char.isAlphanum, h]
  · simp [isPlain, isAscii, hc]

/-- A character that is known by a number beyond ASCII. -/
theorem isPlain_ofNat {n : Nat} (hn : 0x80 ≤ n) (hv : n < 0xd800) :
    isPlain (Char.ofNat n) = true := by
  have hvalid : n.isValidChar := Or.inl hv
  have htoNat : (Char.ofNat n).toNat = n := by
    rw [Char.ofNat, dif_pos hvalid]
    rfl
  have hascii : isAscii (Char.ofNat n) = false := by
    rw [isAscii, htoNat]
    exact decide_eq_false (by omega)
  rw [isPlain, hascii]
  rfl

theorem Text.mem_of_mem_words {sep : Char → Bool} {s w : Text} (h : w ∈ words sep s) :
    ∀ c ∈ w, c ∈ s := by
  -- the word that the text begins with, and those after it
  have hparts : (∀ c ∈ (wordsFrom sep s).1, c ∈ s) ∧ ∀ w ∈ (wordsFrom sep s).2, ∀ c ∈ w, c ∈ s := by
    clear h
    induction s with
    | nil => simp [wordsFrom]
    | cons d s ih =>
      rw [wordsFrom]
      dsimp only
      split
      · refine ⟨by simp, fun w hw c hc => List.mem_cons_of_mem d ?_⟩
        split at hw
        · exact ih.2 w hw c hc
        · rcases List.mem_cons.mp hw with rfl | hw
          · exact ih.1 c hc
          · exact ih.2 w hw c hc
      · refine ⟨fun c hc => ?_, fun w hw c hc => List.mem_cons_of_mem d (ih.2 w hw c hc)⟩
        exact List.mem_cons.mpr ((List.mem_cons.mp hc).imp_right (ih.1 c))
  rw [words] at h
  dsimp only at h
  split at h
  · exact hparts.2 w h
  · rcases List.mem_cons.mp h with rfl | h
    · exact hparts.1
    · exact hparts.2 w h

namespace Normal

variable {c d letter mark : Char} {s : Text}

/-! ## Tables -/

/-- The characters of a string, as the elaborator knows a literal. -/
theorem all_ofList {p : Char → Bool} {l : Text} (h : l.all p = true) :
    (String.ofList l).toList.all p = true := by
  rwa [String.toList_ofList]

-- The literals of a table are decided one by one: to evaluate the table as it stands, the kernel
-- would decode every literal from its bytes.
set_option maxRecDepth 10000 in
theorem all_simpleVariants : ∀ v ∈ simpleVariants, v.meanings.toList.all isPlain = true := by
  simp only [simpleVariants, List.forall_mem_cons, String.toList_append, List.all_append,
    Bool.and_eq_true]
  and_intros
  all_goals first | exact all_ofList (by decide +kernel) | exact List.forall_mem_nil _

set_option maxRecDepth 10000 in
theorem all_ligatures :
    ∀ v ∈ ligatures, v.meanings.toList.all (fun c => c == ' ' || isPlain c) = true := by
  simp only [ligatures, List.forall_mem_cons, String.toList_append, List.all_append,
    Bool.and_eq_true]
  and_intros
  all_goals first | exact all_ofList (by decide +kernel) | exact List.forall_mem_nil _

set_option maxRecDepth 10000 in
theorem all_composers : ∀ k ∈ composers, isPlain (Char.ofNat k.mark) = true ∧
    k.letters.toList.all isPlain = true ∧ k.composites.toList.all isPlain = true := by
  simp only [composers, List.forall_mem_cons, String.toList_append, List.all_append,
    Bool.and_eq_true]
  and_intros
  all_goals first
    | exact all_ofList (by decide +kernel)
    | exact List.forall_mem_nil _
    | exact isPlain_ofNat (by decide) (by decide)
    | decide +kernel

/-- What is found in a table is a meaning of one of its variants. -/
theorem exists_of_meaningIn? {table : List Variants} {meanings : Variants → List Text} {n : Nat}
    (h : meaningIn? table meanings n = some s) : ∃ v ∈ table, s ∈ meanings v := by
  obtain ⟨v, hv, h⟩ := List.exists_of_findSome?_eq_some h
  split at h
  · exact ⟨v, hv, List.mem_of_getElem? h⟩
  · cases h

theorem isPlain_of_meaning? (h : meaning? c = some s) : ∀ d ∈ s, isPlain d = true := by
  intro d hd
  unfold meaning? at h
  split at h
  · next hs =>
    cases h
    obtain ⟨v, hv, hmem⟩ := exists_of_meaningIn? hs
    obtain ⟨e, he, rfl⟩ := List.mem_map.mp hmem
    obtain rfl := List.mem_singleton.mp hd
    exact List.all_eq_true.mp (all_simpleVariants v hv) _ he
  · obtain ⟨v, hv, hmem⟩ := exists_of_meaningIn? h
    have hspace := (Text.mem_words hmem).2 d hd
    have hplain := List.all_eq_true.mp (all_ligatures v hv) d (Text.mem_of_mem_words hmem d hd)
    simpa [hspace] using hplain

theorem mem_pairs {k : Composer} {p : Char × Char} (hk : k ∈ composers) (hp : p ∈ k.pairs) :
    isPlain p.1 = true ∧ isPlain p.2 = true := by
  obtain ⟨-, hletters, hcomposites⟩ := all_composers k hk
  obtain ⟨hletter, hcomposite⟩ := List.of_mem_zip (a := p.1) (b := p.2) hp
  exact ⟨List.all_eq_true.mp hletters _ hletter, List.all_eq_true.mp hcomposites _ hcomposite⟩

theorem isPlain_of_parts? (h : parts? c = some (letter, mark)) :
    isPlain letter = true ∧ isPlain mark = true := by
  obtain ⟨k, hk, h⟩ := List.exists_of_findSome?_eq_some h
  obtain ⟨p, hp, h⟩ := List.exists_of_findSome?_eq_some h
  dsimp only at h
  split at h
  · obtain ⟨rfl, rfl⟩ := Prod.mk.inj (Option.some.inj h)
    exact ⟨(mem_pairs hk hp).1, (all_composers k hk).1⟩
  · cases h

theorem isPlain_of_composite? (h : composite? letter mark = some c) : isPlain c = true := by
  unfold composite? at h
  split at h
  · cases h
  · next k hk =>
    obtain ⟨front, rest, hlist, -⟩ := List.lookup_eq_some_iff.mp h
    have hmem : (letter, c) ∈ k.pairs := by
      rw [hlist]
      exact List.mem_append_right _ List.mem_cons_self
    exact (mem_pairs (List.mem_of_find?_eq_some hk) hmem).2

/-! ## Korean syllables -/

theorem isPlain_of_letters? (h : letters? c = some s) : ∀ d ∈ s, isPlain d = true := by
  unfold letters? at h
  dsimp only at h
  split at h
  · next hc =>
    cases h
    unfold syllables at hc ⊢
    unfold leads vowels trails
    intro d hd
    simp only [List.cons_append, List.nil_append, List.mem_cons] at hd
    rcases hd with hd | hd | hd
    · rw [hd]
      exact isPlain_ofNat (by omega) (by omega)
    · rw [hd]
      exact isPlain_ofNat (by omega) (by omega)
    · split at hd
      · cases hd
      · rw [List.mem_singleton] at hd
        rw [hd]
        exact isPlain_ofNat (by omega) (by omega)
  · cases h

theorem isPlain_of_syllable? (h : syllable? letter mark = some c) : isPlain c = true := by
  unfold syllable? syllables leads vowels trails at h
  dsimp only at h
  split at h
  · rw [← Option.some.inj h]
    exact isPlain_ofNat (by omega) (by omega)
  · split at h
    · rw [← Option.some.inj h]
      exact isPlain_ofNat (by omega) (by omega)
    · cases h

/-! ## Taking apart and putting together -/

/-- A character taken apart by some tables. -/
def apartWith (letters? meaning? : Char → Option Text) (parts? : Char → Option (Char × Char)) :
    Nat → Char → Text
  | 0, c => [c]
  | fuel + 1, c =>
    match letters? c, meaning? c, parts? c with
    | some s, _, _ => s
    | none, some s, _ => s
    | none, none, some (letter, mark) =>
      apartWith letters? meaning? parts? fuel letter ++ apartWith letters? meaning? parts? fuel mark
    | none, none, none => [c]

/-- A character is taken apart by the tables of its script. To open one stage, the tables must not
be in sight. -/
theorem apartFrom_eq_apartWith (fuel : Nat) (c : Char) :
    apartFrom fuel c = apartWith letters? meaning? parts? fuel c := by
  delta apartFrom apartWith
  rfl

/-- Tables without marks take a character apart into characters that are no marks. -/
theorem isPlain_of_mem_apartWith {letters? meaning? : Char → Option Text}
    {parts? : Char → Option (Char × Char)}
    (hletters : ∀ c s, letters? c = some s → ∀ d ∈ s, isPlain d = true)
    (hmeaning : ∀ c s, meaning? c = some s → ∀ d ∈ s, isPlain d = true)
    (hparts : ∀ c p, parts? c = some p → isPlain p.1 = true ∧ isPlain p.2 = true)
    {fuel : Nat} (hc : isPlain c = true) :
    ∀ d ∈ apartWith letters? meaning? parts? fuel c, isPlain d = true := by
  induction fuel generalizing c with
  | zero => exact List.forall_mem_singleton.mpr hc
  | succ fuel ih =>
    rw [apartWith]
    split
    · next hs => exact hletters c _ hs
    · next hs => exact hmeaning c _ hs
    · next hp =>
      obtain ⟨hletter, hmark⟩ := hparts c _ hp
      exact List.forall_mem_append.mpr ⟨ih hletter, ih hmark⟩
    · exact List.forall_mem_singleton.mpr hc

/-- A character is taken apart into characters that are no marks. -/
theorem isPlain_of_mem_apart (hc : isPlain c = true) : ∀ d ∈ apart c, isPlain d = true := by
  rw [apart, apartFrom_eq_apartWith]
  exact isPlain_of_mem_apartWith (fun _ _ => isPlain_of_letters?) (fun _ _ => isPlain_of_meaning?)
    (fun _ _ => isPlain_of_parts?) hc

theorem mem_settle (h : d ∈ settle c s) : d = c ∨ d ∈ s := by
  induction s with
  | nil => exact Or.inl (List.mem_singleton.mp h)
  | cons e s ih =>
    rw [settle] at h
    split at h
    · rcases List.mem_cons.mp h with rfl | h
      · exact Or.inr List.mem_cons_self
      · exact (ih h).imp_right (List.mem_cons_of_mem e)
    · exact List.mem_cons.mp h

/-- Putting marks in order brings none in. -/
theorem mem_of_mem_ordered (h : d ∈ ordered s) : d ∈ s := by
  have hfold : ∀ done : Text, d ∈ s.foldl (fun done c => settle c done) done →
      d ∈ done ∨ d ∈ s := by
    clear h
    induction s with
    | nil => exact fun done h => Or.inl h
    | cons c s ih =>
      intro done h
      rcases ih _ h with h | h
      · rcases mem_settle h with rfl | h
        · exact Or.inr List.mem_cons_self
        · exact Or.inl h
      · exact Or.inr (List.mem_cons_of_mem c h)
  exact (hfold [] (List.mem_reverse.mp h)).resolve_left List.not_mem_nil

/-- Letters are put together to characters that are no marks. -/
theorem isPlain_of_mem_togetherFrom {kept : Text} {order : Nat} (hl : isPlain letter = true)
    (hk : ∀ d ∈ kept, isPlain d = true) (hs : ∀ d ∈ s, isPlain d = true) :
    ∀ d ∈ togetherFrom letter kept order s, isPlain d = true := by
  have hkept : ∀ d ∈ kept.reverse, isPlain d = true := fun d hd => hk d (List.mem_reverse.mp hd)
  induction s generalizing letter kept order with
  | nil => exact List.forall_mem_cons.mpr ⟨hl, hkept⟩
  | cons c rest ih =>
    obtain ⟨hc, hrest⟩ := List.forall_mem_cons.mp hs
    rw [togetherFrom]
    split
    · next made hmade =>
      have hplain : isPlain made = true := by
        split at hmade
        · rcases Option.or_eq_some_iff.mp hmade with h | ⟨-, h⟩
          · exact isPlain_of_syllable? h
          · exact isPlain_of_composite? h
        · cases hmade
      exact ih hplain hk hrest hkept
    · split
      · refine List.forall_mem_append.mpr ⟨List.forall_mem_cons.mpr ⟨hl, hkept⟩, ?_⟩
        exact ih hc (by simp) hrest (by simp)
      · have hmore : ∀ d ∈ c :: kept, isPlain d = true := List.forall_mem_cons.mpr ⟨hc, hk⟩
        exact ih hl hmore hrest fun d hd => hmore d (List.mem_reverse.mp hd)

end Normal

/-- **A normal form has no marks** that the text does not have. -/
theorem Text.isPlain_of_mem_normal {s : Text} (hs : ∀ c ∈ s, isPlain c = true) :
    ∀ c ∈ s.normal, isPlain c = true := by
  have hapart : ∀ c ∈ s.flatMap Normal.apart, isPlain c = true := by
    intro c hc
    obtain ⟨d, hd, hc⟩ := List.mem_flatMap.mp hc
    exact Normal.isPlain_of_mem_apart (hs d hd) c hc
  have hordered : ∀ c ∈ Normal.ordered (s.flatMap Normal.apart), isPlain c = true :=
    fun c hc => hapart c (Normal.mem_of_mem_ordered hc)
  unfold Text.normal
  split
  · exact hs
  · generalize Normal.ordered _ = u at hordered
    cases u with
    | nil => simp [Normal.together]
    | cons c rest =>
      obtain ⟨hc, hrest⟩ := List.forall_mem_cons.mp hordered
      exact Normal.isPlain_of_mem_togetherFrom hc (by simp) hrest

end Marginalia
