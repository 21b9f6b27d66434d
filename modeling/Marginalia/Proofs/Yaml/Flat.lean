import Mathlib.Data.List.Basic
import Marginalia.Proofs.Yaml.Scalar
import Marginalia.Yaml.Writer

/-!
# Flat dictionaries in YAML

A dictionary from texts to nothing, truth values, integers and texts is written row by row: a key
and a value on one line, or a question mark, the key, a colon and the value where the key is empty,
long or of several lines. A reader takes the rows back one at a time, so that no two flat
dictionaries have the same text.

## Main definitions

* `Yaml.Row`, `Yaml.Row.write`: an entry of a flat dictionary, and its lines
* `Yaml.Row.read?`: a row, and what follows it
* `Yaml.IsFlat`: flat dictionaries

## Main results

* `Yaml.Row.read?_write`: a row reads back
* `Yaml.eq_rowsText_of_render`: the text of a flat dictionary
* `Yaml.flat_text_eq_iff`: flat dictionaries are told apart by their texts
-/

namespace Marginalia

namespace Yaml

open Quoted (push)

variable {k r s : Text}

/-! ## Keys -/

/-- The text up to the first colon before a space, and what follows the two. -/
def untilColon? : Text → Option (Text × Text)
  | [] => none
  | c :: r =>
    if c = ':' ∧ r.head? = some ' ' then some ([], r.tail) else push c (untilColon? r)

theorem untilColon?_append (h : s.anyPair (fun c d => c == ':' && d == ' ') = false) (r : Text) :
    untilColon? (s ++ ':' :: ' ' :: r) = some (s, r) := by
  induction s with
  | nil => rfl
  | cons c s ih =>
    have hpush : push c (some (s, r)) = some (c :: s, r) := rfl
    cases s with
    | nil =>
      have hcolon : ':' ≠ ' ' := by decide
      rw [List.cons_append, untilColon?, if_neg (by simp [hcolon]), ih rfl, hpush]
    | cons d s =>
      rw [anyPair_cons_cons, Bool.or_eq_false_iff] at h
      have hpair : ¬ (c = ':' ∧ (d :: s ++ ':' :: ' ' :: r).head? = some ' ') := by
        simpa using h.1
      rw [List.cons_append, untilColon?, if_neg hpair, ih h.2, hpush]

/-- A key on the line of its value, and what follows the colon and the space behind it. -/
def inlineKey? (s : Text) : Option (Text × Text) :=
  match quoted? s with
  | some (k, r) => (Text.after? [':', ' '] r).map fun r => (k, r)
  | none => untilColon? s

/-- A key on a line of its own, and what follows the colon and the space on the next line. -/
def ownKey? (s : Text) : Option (Text × Text) :=
  match Scalar.read? s with
  | some (.text k, r) => (Text.after? ['\n', ':', ' '] r).map fun r => (k, r)
  | _ => none

/-- The key of a row, and its value with what follows. -/
def readKey? (s : Text) : Option (Text × Text) :=
  match Text.after? ['?', ' '] s with
  | some r => ownKey? r
  | none => inlineKey? s

theorem after?_append (lead r : Text) : Text.after? lead (lead ++ r) = some r :=
  Text.after?_eq_some_iff.mpr rfl

/-- **A key on the line of its value reads back.** -/
theorem readKey?_line (k r : Text) :
    readKey? (writeText false 0 0 k ++ ':' :: ' ' :: r) = some (k, r) := by
  -- a plain key ends at the first colon before a space, and a quoted one with its quote
  by_cases hs : styleOf k = .plain
  · have hplain := isPlain_of_styleOf hs
    rw [hplain.writeText_eq hs, readKey?, hplain.after?_mark]
    dsimp only
    rw [inlineKey?, hplain.quoted?_append]
    exact untilColon?_append hplain.colon r
  · have hmark : Text.after? ['?', ' '] (writeText false 0 0 k ++ ':' :: ' ' :: r) = none := by
      obtain ⟨c, t, ht, hc⟩ := exists_writeText_eq hs false 0 0
      rw [ht]
      rcases hc with rfl | rfl <;> rfl
    rw [readKey?, hmark]
    dsimp only
    rw [inlineKey?, quoted?_writeText hs (by decide) (by simp)]
    rfl

/-- **A key on a line of its own reads back.** -/
theorem readKey?_own (column : Nat) (k r : Text) :
    readKey? ('?' :: ' ' :: (writeText true 2 column k ++ '\n' :: ':' :: ' ' :: r)) =
      some (k, r) := by
  have hends : EndsScalar ('\n' :: ':' :: ' ' :: r) := endsScalar_cons (by simp)
  have hread : Scalar.read? ((Scalar.text k).write true 2 column ++ '\n' :: ':' :: ' ' :: r) = _ :=
    Scalar.read?_write trivial (by decide) (by decide) hends
  have hmark : ∀ t, Text.after? ['?', ' '] ('?' :: ' ' :: t) = some t := after?_append ['?', ' ']
  rw [readKey?, hmark]
  dsimp only
  rw [ownKey?, ← Scalar.write, hread]
  rfl

/-! ## Rows -/

/-- An entry of a flat dictionary: a key and a value. -/
abbrev Row := Text × Scalar

namespace Row

/-- The nodes of a row. -/
def nodes (p : Row) : Node × Node := (.scalar (.text p.1), .scalar p.2)

/-- The lines of a row. -/
def write (p : Row) : Text :=
  let key := writeText false 0 0 p.1
  if (Scalar.text p.1).fitsKey then
    key ++ ':' :: ' ' :: (p.2.write true 2 (key.length + 2) ++ ['\n'])
  else
    '?' :: ' ' :: (writeText true 2 2 p.1 ++ '\n' :: ':' :: ' ' :: (p.2.write true 2 2 ++ ['\n']))

/-- A row, and what follows it. -/
def read? (s : Text) : Option (Row × Text) :=
  match readKey? s with
  | none => none
  | some (k, r) =>
    match Scalar.read? r with
    | none => none
    | some (a, r) => (Text.after? ['\n'] r).map fun r => ((k, a), r)

theorem read?_of_readKey? (column : Nat) {a : Scalar} (ha : a.IsFlat)
    (hkey : readKey? s = some (k, a.write true 2 column ++ '\n' :: r))
    (hr : r.head? ≠ some ' ') : read? s = some ((k, a), r) := by
  rw [read?, hkey]
  dsimp only
  rw [Scalar.read?_write ha (by decide) (by decide) (endsScalar_cons hr)]
  rfl

/-- **A row reads back**, as long as no indented line follows it. -/
theorem read?_write {p : Row} (hp : p.2.IsFlat) (hr : r.head? ≠ some ' ') :
    read? (p.write ++ r) = some (p, r) := by
  rw [write]
  split
  · refine read?_of_readKey? ((writeText false 0 0 p.1).length + 2) hp ?_ hr
    simpa using readKey?_line p.1
      (p.2.write true 2 ((writeText false 0 0 p.1).length + 2) ++ '\n' :: r)
  · refine read?_of_readKey? 2 hp ?_ hr
    simpa using readKey?_own 2 p.1 (p.2.write true 2 2 ++ '\n' :: r)

/-- A row is not indented. -/
theorem head?_write_ne (p : Row) (r : Text) : (p.write ++ r).head? ≠ some ' ' := by
  rw [write]
  split
  · by_cases hs : styleOf p.1 = .plain
    · have hplain := isPlain_of_styleOf hs
      obtain ⟨c, k, hk⟩ := List.exists_cons_of_ne_nil hplain.ne_nil
      have hc := (isSpaceOrBreak_eq_false_iff.mp (hplain.solid c (by rw [hk]; rfl))).1
      rw [hplain.writeText_eq hs, hk]
      simpa using hc
    · obtain ⟨c, t, ht, hc⟩ := exists_writeText_eq hs false 0 0
      rw [ht]
      rcases hc with rfl | rfl <;> exact fun h => absurd (Option.some.inj h) (by decide)
  · exact fun h => absurd (Option.some.inj h) (by decide)

theorem head?_flatMap_ne (ps : List Row) : (ps.flatMap write).head? ≠ some ' ' := by
  cases ps with
  | nil => nofun
  | cons p ps => exact head?_write_ne p _

theorem read?_flatMap {p : Row} (ps : List Row) (hp : p.2.IsFlat) :
    read? ((p :: ps).flatMap write) = some (p, ps.flatMap write) := by
  rw [List.flatMap_cons]
  exact read?_write hp (head?_flatMap_ne ps)

/-- **Rows are told apart by their lines**, whatever their number. -/
theorem eq_of_flatMap_write {ps qs : List Row} (hps : ∀ p ∈ ps, p.2.IsFlat)
    (hqs : ∀ q ∈ qs, q.2.IsFlat) (h : ps.flatMap write = qs.flatMap write) : ps = qs := by
  have hnil : read? [] = none := rfl
  -- the first row of either text is read; it is the same one, and so is what follows it
  induction ps generalizing qs with
  | nil =>
    cases qs with
    | nil => rfl
    | cons q qs =>
      have hread := read?_flatMap qs (List.forall_mem_cons.mp hqs).1
      rw [← h, List.flatMap_nil, hnil] at hread
      cases hread
  | cons p ps ih =>
    rw [List.forall_mem_cons] at hps
    have hread := read?_flatMap ps hps.1
    cases qs with
    | nil =>
      rw [h, List.flatMap_nil, hnil] at hread
      cases hread
    | cons q qs =>
      rw [List.forall_mem_cons] at hqs
      rw [h, read?_flatMap qs hqs.1] at hread
      obtain ⟨rfl, hrest⟩ := Prod.mk.inj (Option.some.inj hread)
      rw [ih hps.2 hqs.2 hrest.symm]

end Row

/-! ## Flat dictionaries -/

/-- What a scalar stands for. -/
def Scalar.value : Scalar → Value
  | null => .none
  | bool b => .bool b
  | int i => .int i
  | float x => .float x
  | text s => .text s
  | binary bs => .bytes bs

/-- The entry of a row. -/
def Row.entry (p : Row) : Value × Value := (.text p.1, p.2.value)

theorem Row.entry_injective : Function.Injective Row.entry := by
  rintro ⟨k, a⟩ ⟨l, b⟩ h
  obtain ⟨hkey, hvalue⟩ := Prod.mk.inj h
  obtain rfl := Value.text.inj hkey
  cases a <;> cases b <;> cases hvalue <;> rfl

end Yaml

/-- Nothing, a truth value, an integer or a text. -/
def Value.IsAtom : Value → Prop
  | none => True
  | bool _ => True
  | int _ => True
  | text _ => True
  | _ => False

namespace Yaml

/-- A dictionary is flat if its keys are texts, and its values are nothing, truth values, integers
and texts. -/
def IsFlat (entries : Entries) : Prop := ∀ e ∈ entries, (∃ k, e.1 = .text k) ∧ e.2.IsAtom

theorem exists_scalar_of_isAtom {v : Value} (h : v.IsAtom) :
    ∃ a : Scalar, a.IsFlat ∧ v = a.value := by
  cases v with
  | none => exact ⟨.null, trivial, rfl⟩
  | bool b => exact ⟨.bool b, trivial, rfl⟩
  | int i => exact ⟨.int i, trivial, rfl⟩
  | text s => exact ⟨.text s, trivial, rfl⟩
  | _ => exact h.elim

theorem IsFlat.exists_rows {entries : Entries} (h : IsFlat entries) :
    ∃ ps : List Row, (∀ p ∈ ps, p.2.IsFlat) ∧ entries = ps.map Row.entry := by
  induction entries with
  | nil => exact ⟨[], nofun, rfl⟩
  | cons e entries ih =>
    obtain ⟨he, hrest⟩ := List.forall_mem_cons.mp h
    obtain ⟨ps, hps, rfl⟩ := ih hrest
    obtain ⟨key, v⟩ := e
    obtain ⟨⟨k, rfl⟩, hatom⟩ := he
    obtain ⟨a, ha, rfl⟩ := exists_scalar_of_isAtom hatom
    exact ⟨(k, a) :: ps, List.forall_mem_cons.mpr ⟨ha, hps⟩, rfl⟩

section Nodes

variable {enter : Nat → Sightings → Met Node} {m m' : Sightings}

theorem Met.map_eq_ok_iff {α β : Type} {f : α → β} {x : Met α} {b : β} :
    Met.map f x = .ok (b, m') ↔ ∃ a, x = .ok (a, m') ∧ f a = b := by
  obtain e | ⟨a, m⟩ := x
  · simp [Met.map, Except.map]
  · simp [Met.map, Except.map, and_comm]

theorem eq_scalar_of_node {a : Scalar} {n : Node} (ha : a.IsFlat)
    (h : node enter a.value m = .ok (n, m')) : n = .scalar a ∧ m' = m := by
  cases a with
  | int i =>
    rw [Scalar.value, node, intNode] at h
    split at h
    · cases h
    · obtain ⟨rfl, rfl⟩ := Prod.mk.inj (Except.ok.inj h)
      exact ⟨rfl, rfl⟩
  | float x => exact ha.elim
  | binary bs => exact ha.elim
  | _ =>
    rw [Scalar.value, node] at h
    obtain ⟨rfl, rfl⟩ := Prod.mk.inj (Except.ok.inj h)
    exact ⟨rfl, rfl⟩

/-- The nodes of a flat dictionary are those of its rows. -/
theorem eq_nodes_of_nodeEntries {ps : List Row} {pairs : List (Node × Node)}
    (hps : ∀ p ∈ ps, p.2.IsFlat) (h : nodeEntries enter (ps.map Row.entry) m = .ok (pairs, m')) :
    pairs = ps.map Row.nodes := by
  induction ps generalizing m pairs with
  | nil => exact (Prod.mk.inj (Except.ok.inj h)).1.symm
  | cons p ps ih =>
    obtain ⟨hp, hrest⟩ := List.forall_mem_cons.mp hps
    rw [List.map_cons, Row.entry, nodeEntries, node] at h
    dsimp only at h
    split at h
    · cases h
    · next n m₁ hn =>
      obtain ⟨rfl, rfl⟩ := eq_scalar_of_node hp hn
      obtain ⟨pairs', hpairs, rfl⟩ := Met.map_eq_ok_iff.mp h
      rw [ih hrest hpairs]
      rfl

end Nodes

theorem write_scalar (twice : List Referent) (place : Place) (indent column : Nat) (a : Scalar) :
    Node.write twice place indent column [] (.scalar a) =
      place.gap ++ a.write true (indent + 2) (column + place.gap.length) := by
  simp [Node.write]

theorem writeEntries_cons (twice : List Referent) (p : Row) (rest : List (Node × Node)) :
    Node.writeEntries twice 0 (p.nodes :: rest) ++ ['\n'] = p.write ++
      (if rest.isEmpty then [] else Node.writeEntries twice 0 rest ++ ['\n']) := by
  have hkey : lineKey? twice p.nodes.1 =
      if (Scalar.text p.1).fitsKey then some (writeText false 0 0 p.1) else none := rfl
  have hline : newLine 0 = ['\n'] := rfl
  rw [Row.nodes] at hkey ⊢
  rw [Node.writeEntries, Row.write, hkey, hline]
  by_cases hfits : (Scalar.text p.1).fitsKey = true
  · simp only [if_pos hfits, write_scalar, Place.gap]
    cases rest <;> simp
  · simp only [if_neg hfits, write_scalar, Place.gap, Scalar.write]
    cases rest <;> simp

/-- **The entries of a flat dictionary are written row by row.** -/
theorem writeEntries_nodes (twice : List Referent) {ps : List Row} (hne : ps ≠ []) :
    Node.writeEntries twice 0 (ps.map Row.nodes) ++ ['\n'] = ps.flatMap Row.write := by
  induction ps with
  | nil => exact absurd rfl hne
  | cons p ps ih =>
    rw [List.map_cons, writeEntries_cons, List.flatMap_cons]
    cases ps with
    | nil => rfl
    | cons q ps => exact congrArg (p.write ++ ·) (ih (List.cons_ne_nil q ps))

/-- The text of some rows; no rows are a pair of braces. -/
def rowsText (ps : List Row) : Text :=
  if ps = [] then ['\x7b', '\x7d', '\n'] else ps.flatMap Row.write

/-- **The text of a flat dictionary** is that of its rows. -/
theorem eq_rowsText_of_render {σ : Store} {ps : List Row} (hps : ∀ p ∈ ps, p.2.IsFlat)
    (h : render σ (ps.map Row.entry) = .ok s) : s = rowsText ps := by
  obtain ⟨⟨n, m⟩, hnode, rfl⟩ := Value.map_eq_ok_iff.mp h
  rw [nodeOf, node] at hnode
  obtain ⟨pairs, hpairs, rfl⟩ := Met.map_eq_ok_iff.mp hnode
  obtain rfl := eq_nodes_of_nodeEntries hps hpairs
  by_cases hne : ps = []
  · subst hne
    rfl
  · have hwrite : Node.write m.twice .root 0 0 [] (.mapping [] (ps.map Row.nodes)) =
        Node.writeEntries m.twice 0 (ps.map Row.nodes) := by
      simp [Node.write, besides, hne, Place.opens, Place.gap, Place.mappingIndent]
    rw [rowsText, if_neg hne, ← writeEntries_nodes m.twice hne, ← hwrite]

/-- **Rows are told apart by their text.** -/
theorem rowsText_eq_iff {ps qs : List Row} (hps : ∀ p ∈ ps, p.2.IsFlat)
    (hqs : ∀ q ∈ qs, q.2.IsFlat) : rowsText ps = rowsText qs ↔ ps = qs := by
  -- no row starts with the braces of a dictionary without rows
  have hbraces : ∀ {ps : List Row}, ps ≠ [] → (∀ p ∈ ps, p.2.IsFlat) →
      rowsText ps ≠ rowsText [] := by
    intro ps hne hps heq
    obtain ⟨p, ps, rfl⟩ := List.exists_cons_of_ne_nil hne
    have hread := Row.read?_flatMap ps (List.forall_mem_cons.mp hps).1
    rw [rowsText, if_neg hne] at heq
    rw [heq] at hread
    cases hread
  refine ⟨fun h => ?_, fun h => h ▸ rfl⟩
  by_cases hp : ps = []
  · subst hp
    by_contra hne
    exact hbraces (Ne.symm hne) hqs h.symm
  · by_cases hq : qs = []
    · subst hq
      exact absurd h (hbraces hp hps)
    · rw [rowsText, rowsText, if_neg hp, if_neg hq] at h
      exact Row.eq_of_flatMap_write hps hqs h

/-- **Flat dictionaries are told apart by their texts**: two of them have the same text exactly when
they are the same, with the same entries in the same order and of the same types. A string is never
written like another one, nor like nothing, a truth value or an integer. -/
theorem flat_text_eq_iff {σ σ' : Store} {entries entries' : Entries} {s s' : Text}
    (h : IsFlat entries) (h' : IsFlat entries') (hs : render σ entries = .ok s)
    (hs' : render σ' entries' = .ok s') : s = s' ↔ entries = entries' := by
  obtain ⟨ps, hps, rfl⟩ := h.exists_rows
  obtain ⟨qs, hqs, rfl⟩ := h'.exists_rows
  rw [eq_rowsText_of_render hps hs, eq_rowsText_of_render hqs hs', rowsText_eq_iff hps hqs,
    Row.entry_injective.list_map.eq_iff]

-- a text of digits is told apart from an integer
example : render .empty [(.text "1".toList, .text "12".toList)] = .ok "'1': '12'\n".toList ∧
    render .empty [(.text "1".toList, .int 12)] = .ok "'1': 12\n".toList := by decide

end Yaml

end Marginalia
