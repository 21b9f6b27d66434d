import Marginalia.Proofs.Program.Bracketed
import Marginalia.Proofs.Value.Parts
import Marginalia.Render.Layout

/-!
# Literals read back

However the literal of a dictionary is laid out, it is read as the dictionary. What a layout chooses
is where lines end, how far they are indented and where texts are cut, and inside brackets none of
that matters to a reader.

## Main definitions

* `Value.HasLiteral`: what has a literal, its members aside
* `Value.IsData`: constants, integers, texts, and lists, tuples and dictionaries of them
* `Written`: a text that stands for a value inside brackets
* `Shape.Spells`: a shape all of whose layouts stand for a value

## Main results

* `Shape.Spells.group`, `Shape.Spells.table`: brackets around what stands for values
* `Value.spells_of_shape`: all layouts of a value stand for the value
* `Data.literalValue?_render`: the literal of a dictionary is read as the dictionary
-/

namespace Marginalia

open Program (Reads Means MeansEntry Lists)

/-! ## Data -/

namespace Value

/-- What has a literal, its members aside. The keys of a dictionary can be keys and are
different. -/
def HasLiteral : Value → Prop
  | .none | .bool _ | .text _ | .list _ | .tuple _ => True
  | .int i => Digits.tooLong i = false
  | .dict entries => Program.AreKeys (entries.map Prod.fst)
  | _ => False

/-- A value that is built from constants, integers, texts, lists, tuples and dictionaries alone. A
reference is none of these; the tree of a value keeps one only where a container stands inside
itself. -/
def IsData (v : Value) : Prop := ∀ w : Value, w.Within v → w.HasLiteral

theorem isData_iff {v : Value} : v.IsData ↔ v.HasLiteral ∧ ∀ u ∈ v.members, u.IsData :=
  forall_within_iff

/-- What has a literal and no members is data. -/
theorem isData_of_members {v : Value} (h : v.HasLiteral) (hmembers : v.members = []) :
    v.IsData := by
  rw [isData_iff, hmembers]
  exact ⟨h, nofun⟩

theorem speaks_of_hasLiteral {v : Value} (h : v.HasLiteral) : v.speaks = true := by
  cases v with
  | int i => exact congrArg Bool.not h
  | foreign o => exact h.elim
  | _ => rfl

/-- Data can be spelled. -/
theorem IsData.speakable {v : Value} (h : v.IsData) : v.speakable = true :=
  v.speakable_iff.mpr fun w hw => speaks_of_hasLiteral (h w hw)

end Value

/-! ## Texts for single values -/

/-- A text that stands for a value inside brackets. -/
def Written (s : Text) (v : Value) : Prop := ∃ ts, Reads s ts ∧ Means ts v

theorem reads_word {c : Char} {s : Text} (hc : Program.startsWord c = true)
    (hs : ∀ d ∈ c :: s, isNameChar d = true)
    (hu : ∀ number (opened : Program.Nesting),
      opened.after number (Program.word (c :: s)) = .ok opened) :
    Reads (c :: s) [Program.word (c :: s)] := by
  apply Program.reads_of_spells _ (.of_forall (by decide) hs) hu
  intro r hr
  apply Program.lexes_word hc (List.forall_mem_cons.mp hs).2
  intro d hd
  exact ⟨Program.isNameChar_of_follows hr hd, hr.eq_false (by decide) hd⟩

theorem written_none : Written "None".toList .none :=
  ⟨_, reads_word (by decide) (by decide) fun _ _ => rfl, Program.means_none⟩

theorem written_bool (b : Bool) : Written (spellBool b) (.bool b) := by
  refine ⟨_, ?_, Program.means_bool b⟩
  cases b with
  | false => exact reads_word (by decide) (by decide) fun _ _ => rfl
  | true => exact reads_word (by decide) (by decide) fun _ _ => rfl

theorem reads_decimal {n : Nat} (h : Digits.tooLong n = false) :
    Reads (Digits.decimal n) [.numeral n] :=
  Program.reads_of_spells (fun _ hr => Program.lexes_decimal h hr)
    (.of_forall (by decide) (Digits.decimal_isDigit n)) fun _ _ => rfl

theorem written_int {i : Int} (h : Digits.tooLong i = false) :
    Written (Digits.decimalInt i) (.int i) := by
  refine ⟨_, ?_, Program.means_int i⟩
  cases i with
  | ofNat n => exact reads_decimal h
  | negSucc n => exact (reads_decimal (n := n + 1) h).mark (by decide)

theorem reads_quote (s : Text) : Reads (quote s) [.text s] :=
  Program.reads_of_spells (fun _ hr => Program.lexes_write isPrintable s hr) (Quoted.oneLine_write s)
    fun _ _ => rfl

theorem isGap_of_mem_spaces {n : Nat} {c : Char} (h : c ∈ Text.spaces n) :
    Program.isGap c = true ∨ c = '\n' := by
  obtain rfl := List.eq_of_mem_replicate h
  exact Or.inl rfl

/-- **A text that is cut** stands for what its pieces make up. -/
theorem written_pieces {pieces : List Text} (hne : pieces ≠ []) (indent : Nat) :
    Written (Text.joined (Layout.newLine indent) (pieces.map quote)) (.text pieces.flatten) := by
  refine ⟨pieces.map .text, ?_, Program.means_texts hne⟩
  apply Program.reads_adjacent fun c hc => isGap_of_mem_spaces hc
  rw [List.forall₂_map_left_iff, List.forall₂_map_right_iff, List.forall₂_same]
  exact fun piece _ => reads_quote piece

theorem written_quote (s : Text) : Written (quote s) (.text s) := by
  have h := written_pieces (List.cons_ne_nil s []) 0
  rwa [List.flatten_singleton] at h

/-! ## Texts for containers -/

theorem written_list {t : Text} {items : List Value} (h : Lists Means t items) :
    Written (['['] ++ t ++ [']']) (.list items) := by
  obtain ⟨rows, hreads, hrows⟩ := h
  exact ⟨_, hreads.enclosed rfl, Program.means_list hrows⟩

theorem written_tuple {t : Text} {items : List Value} (h : Lists Means t items) :
    Written (['('] ++ t ++ tupleClose items.length) (.tuple items) := by
  obtain ⟨rows, hreads, hrows⟩ := h
  refine ⟨_, ?_, Program.means_tuple hrows⟩
  rw [hrows.length_eq, tupleClose, Program.tupleClosing]
  split
  · -- the comma behind a single member belongs to what stands in the parentheses
    have hcomma := hreads.append (Program.reads_nil.mark (c := ',') (by decide)) (by decide)
    simpa using hcomma.enclosed (c := '(') rfl
  · exact hreads.enclosed rfl

theorem written_dict {t : Text} {entries : Entries} (h : Lists MeansEntry t entries)
    (hkeys : Program.AreKeys (entries.map Prod.fst)) :
    Written (openBrace ++ t ++ closeBrace) (.dict entries) := by
  obtain ⟨rows, hreads, hrows⟩ := h
  exact ⟨_, hreads.enclosed rfl, Program.means_dict hrows hkeys⟩

/-- A text that stands for an entry inside brackets. -/
def WrittenEntry (s : Text) (e : Value × Value) : Prop := ∃ ts, Reads s ts ∧ MeansEntry ts e

theorem Written.entry {key s : Text} {k v : Value} (hk : Written key k) (hv : Written s v) :
    WrittenEntry (key ++ colonSpace ++ s) (k, v) := by
  obtain ⟨ks, hks, hkey⟩ := hk
  obtain ⟨ts, hts, hvalue⟩ := hv
  have hcolon := (hts.blank (c := ' ') (Or.inl rfl)).mark (c := ':') (by decide)
  refine ⟨_, ?_, ks, ts, rfl, hkey, hvalue⟩
  simpa [colonSpace, Program.entryTokens] using hks.append hcolon (by decide)

/-! ## Shapes -/

namespace Shape

open Layout

/-- All layouts of the shape stand for the value. -/
structure Spells (x : Shape) (v : Value) : Prop where
  /-- It does on one line. -/
  line : Written x.oneLine v
  /-- It does at any indentation, with any room after it. -/
  lines : ∀ indent reserve, Written (x.layout indent reserve) v

theorem spells_atom {s : Text} {v : Value} (h : Written s v) : Spells (.atom s) v where
  line := h
  lines indent reserve := by
    rw [layout]
    exact h

theorem spells_text (s : Text) : Spells (.text s) (.text s) where
  line := written_quote s
  lines indent reserve := by
    rw [layout]
    split
    · exact written_quote s
    · next hfits =>
      -- a text that does not fit is not empty, so there are pieces
      have hne : textPieces indent reserve s ≠ [] := by
        intro hnil
        have hflatten := textPieces_flatten indent reserve s
        rw [hnil] at hflatten
        simp [← hflatten] at hfits
      have h := written_pieces hne indent
      rwa [textPieces_flatten] at h

variable {items : List Value} {entries : Entries} {xs : List Shape}
  {rows : List (Text × Shape)}

theorem isGap_of_mem_newLine {indent : Nat} {c : Char} (h : c ∈ newLine indent) :
    Program.isGap c = true ∨ c = '\n' := by
  rcases List.mem_cons.mp h with rfl | h
  · exact Or.inr rfl
  · exact isGap_of_mem_spaces h

theorem lists_oneLines (h : List.Forall₂ Spells xs items) :
    Lists Means (Text.joined commaSpace (oneLines xs)) items := by
  apply Program.lists_joined [' '] (by decide)
  induction h with
  | nil => exact .nil
  | cons hx _ ih => exact .cons hx.line ih

/-- Items on lines of their own are their layouts with commas and line ends between them. -/
theorem exists_layoutItems (h : List.Forall₂ Spells xs items) (indent reserve : Nat) :
    ∃ parts, layoutItems indent reserve xs = Text.joined (',' :: newLine indent) parts ∧
      List.Forall₂ Written parts items := by
  induction h with
  | nil => exact ⟨[], rfl, .nil⟩
  | @cons x v xs items hx hrest ih =>
    obtain ⟨parts, hparts, hwritten⟩ := ih
    cases hrest with
    | nil => exact ⟨[x.layout indent reserve], rfl, .cons (hx.lines indent reserve) .nil⟩
    | cons hy hrest =>
      -- an item that is not the last one has room for its comma only
      cases hwritten with
      | cons hpart hwritten =>
        refine ⟨_, ?_, .cons (hx.lines indent 1) (.cons hpart hwritten)⟩
        rw [layoutItems, hparts]
        simp

theorem lists_layoutItems (h : List.Forall₂ Spells xs items) (indent reserve : Nat) :
    Lists Means (layoutItems indent reserve xs) items := by
  obtain ⟨parts, hparts, hwritten⟩ := exists_layoutItems h indent reserve
  rw [hparts]
  exact Program.lists_joined (newLine indent) (fun c hc => isGap_of_mem_newLine hc) hwritten

/-- **Brackets** around items. -/
theorem Spells.group {left right : Text} {v : Value} (h : List.Forall₂ Spells xs items)
    (hv : ∀ t, Lists Means t items → Written (left ++ t ++ right) v) :
    Spells (.group left right xs) v where
  line := hv _ (lists_oneLines h)
  lines indent reserve := by
    rw [layout]
    split
    · exact hv _ (lists_oneLines h)
    -- what stands between the brackets starts with a blank otherwise
    · have hitems := (lists_layoutItems h (indent + step) (reserve + right.length)).blank
        (c := ' ') (Or.inl rfl)
      simpa using hv _ hitems

/-- A spelled key and the shape of its value stand for an entry. -/
def SpellsEntry (row : Text × Shape) (e : Value × Value) : Prop :=
  Written row.1 e.1 ∧ Spells row.2 e.2

theorem lists_rowLines (h : List.Forall₂ SpellsEntry rows entries) :
    Lists MeansEntry (Text.joined commaSpace (rowLines rows)) entries := by
  apply Program.lists_joined [' '] (by decide)
  induction h with
  | nil => exact .nil
  | cons hrow _ ih => exact .cons (hrow.1.entry hrow.2.line) ih

/-- Entries on lines of their own are keys and layouts with commas and line ends between them. -/
theorem exists_layoutRows (h : List.Forall₂ SpellsEntry rows entries) (indent reserve : Nat) :
    ∃ parts, layoutRows indent reserve rows = Text.joined (',' :: newLine indent) parts ∧
      List.Forall₂ WrittenEntry parts entries := by
  induction h with
  | nil => exact ⟨[], rfl, .nil⟩
  | @cons row e rows entries hrow hrest ih =>
    obtain ⟨key, x⟩ := row
    obtain ⟨parts, hparts, hwritten⟩ := ih
    have hentry := fun indent reserve => hrow.1.entry (hrow.2.lines indent reserve)
    cases hrest with
    | nil => exact ⟨_, rfl, .cons (hentry _ _) .nil⟩
    | cons hnext hrest =>
      cases hwritten with
      | cons hpart hwritten =>
        refine ⟨_, ?_, .cons (hentry (indent + key.length + 2) 1) (.cons hpart hwritten)⟩
        rw [layoutRows, hparts]
        simp

theorem lists_layoutRows (h : List.Forall₂ SpellsEntry rows entries) (indent reserve : Nat) :
    Lists MeansEntry (layoutRows indent reserve rows) entries := by
  obtain ⟨parts, hparts, hwritten⟩ := exists_layoutRows h indent reserve
  rw [hparts]
  exact Program.lists_joined (newLine indent) (fun c hc => isGap_of_mem_newLine hc) hwritten

/-- What stands in the braces of a dictionary, however it is laid out. -/
theorem exists_layout_table (h : List.Forall₂ SpellsEntry rows entries) (indent reserve : Nat) :
    ∃ t, layout indent reserve (.table rows) = openBrace ++ t ++ closeBrace ∧
      Lists MeansEntry t entries := by
  rw [layout]
  split
  · exact ⟨_, rfl, lists_rowLines h⟩
  · have hrows := (lists_layoutRows h (indent + step) (reserve + 1)).blank (c := ' ') (Or.inl rfl)
    exact ⟨_, by simp, hrows⟩

/-- **Braces** around entries. -/
theorem Spells.table (h : List.Forall₂ SpellsEntry rows entries)
    (hkeys : Program.AreKeys (entries.map Prod.fst)) : Spells (.table rows) (.dict entries) where
  line := written_dict (lists_rowLines h) hkeys
  lines indent reserve := by
    obtain ⟨t, ht, hentries⟩ := exists_layout_table h indent reserve
    rw [ht]
    exact written_dict hentries hkeys

end Shape

/-! ## Values -/

namespace Value

open Shape (Spells SpellsEntry)

variable {mark : Kind → Nat → Text} {items : List Value} {entries : Entries}

theorem forall₂_of_shapes {xs : List Shape} (h : shapes mark items = .ok xs)
    (hitems : ∀ v ∈ items, ∀ x, shape mark v = .ok x → Spells x v) :
    List.Forall₂ Spells xs items := by
  induction items generalizing xs with
  | nil =>
    cases h
    exact .nil
  | cons v items ih =>
    obtain ⟨hv, hitems⟩ := List.forall_mem_cons.mp hitems
    rw [shapes] at h
    cases hshape : shape mark v with
    | error e =>
      rw [hshape] at h
      cases h
    | ok x =>
      rw [hshape] at h
      obtain ⟨xs, hxs, rfl⟩ := map_eq_ok_iff.mp h
      exact .cons (hv x hshape) (ih hxs hitems)

theorem forall₂_of_rows {rows : List (Text × Shape)} (h : Value.rows mark entries = .ok rows)
    (hentries : ∀ v ∈ members (.dict entries), ∀ x, shape mark v = .ok x → Spells x v) :
    List.Forall₂ SpellsEntry rows entries := by
  rw [forall_mem_members_dict] at hentries
  induction entries generalizing rows with
  | nil =>
    cases h
    exact .nil
  | cons e entries ih =>
    obtain ⟨k, v⟩ := e
    obtain ⟨⟨hk, hv⟩, hentries⟩ := List.forall_mem_cons.mp hentries
    rw [Value.rows] at h
    cases hkey : shape mark k with
    | error e =>
      rw [hkey] at h
      cases h
    | ok key =>
      cases hshape : shape mark v with
      | error e =>
        rw [hkey, hshape] at h
        cases h
      | ok x =>
        rw [hkey, hshape] at h
        obtain ⟨rows, hrows, rfl⟩ := map_eq_ok_iff.mp h
        exact .cons ⟨(hk key hkey).line, hv x hshape⟩ (ih hrows hentries)

/-- **All layouts of a value stand for the value.** -/
theorem spells_of_shape {v : Value} (hv : v.IsData) {x : Shape} (h : shape mark v = .ok x) :
    Spells x v := by
  induction v using Value.induction generalizing x with
  | h v ih =>
    -- the shapes of members are made by the same spelling, so they are covered by the induction
    obtain ⟨hself, hmembers⟩ := isData_iff.mp hv
    have hspells : ∀ u ∈ v.members, ∀ x, shape mark u = .ok x → Spells x u :=
      fun u hu x hx => ih u hu (hmembers u hu) hx
    cases v with
    | none =>
      cases h
      exact Shape.spells_atom written_none
    | bool b =>
      cases h
      exact Shape.spells_atom (written_bool b)
    | int i =>
      rw [shape, spellInt, if_neg (by simp [show Digits.tooLong i = false from hself])] at h
      cases h
      exact Shape.spells_atom (written_int hself)
    | text s =>
      cases h
      exact Shape.spells_text s
    | list items =>
      obtain ⟨xs, hxs, rfl⟩ := map_eq_ok_iff.mp h
      exact .group (forall₂_of_shapes hxs hspells) fun t ht => written_list ht
    | tuple items =>
      obtain ⟨xs, hxs, rfl⟩ := map_eq_ok_iff.mp h
      exact .group (forall₂_of_shapes hxs hspells) fun t ht => written_tuple ht
    | dict entries =>
      obtain ⟨rows, hrows, rfl⟩ := map_eq_ok_iff.mp h
      exact .table (forall₂_of_rows hrows hspells) hself
    | _ => exact hself.elim

end Value

/-! ## Dictionaries -/

namespace Data

/-- **The literal of a dictionary is read as the dictionary**, with the classes of all its members
and the order of all entries, whatever is nested in it and however long its texts are. -/
theorem literalValue?_render (σ : Store) (entries : Entries)
    (h : (σ.expand (.dict entries)).IsData) :
    ∃ s, render σ entries = .ok s ∧
      Program.literalValue? s = some (σ.expand (.dict entries)) := by
  have htree : σ.expand (.dict entries) = .dict (σ.expandEntries entries) := rfl
  rw [htree] at h ⊢
  obtain ⟨hkeys, hmembers⟩ := Value.isData_iff.mp h
  have hspelled := (Value.shape_ok_iff recursionMark (.dict _)).trans h.speakable
  rw [Value.shape, Value.succeeds_map] at hspelled
  cases hrows : Value.rows recursionMark (σ.expandEntries entries) with
  | error e =>
    rw [hrows] at hspelled
    cases hspelled
  | ok rows =>
    -- whatever the layout, it is a pair of braces with entries in it
    have hspells := Value.forall₂_of_rows hrows fun v hv x hx =>
      Value.spells_of_shape (hmembers v hv) hx
    obtain ⟨t, ht, tokens, hreads, htokens⟩ := Shape.exists_layout_table hspells 0 0
    refine ⟨Shape.layout 0 0 (.table rows), ?_, ?_⟩
    · rw [render, htree, Value.shape, hrows]
      rfl
    · rw [ht]
      exact Program.literalValue?_enclosed hreads rfl (Program.means_dict htokens hkeys)

/-- A list in two places, a tuple of one member, a tuple as a key, and a text that is cut. -/
theorem literalValue?_render_nested :
    let σ : Store := ⟨[.list [.bool true, .int (-1), .text "it's\n".toList, .dict []]]⟩
    let long : Value := .text (List.replicate 70 'x' ++ "\r\n \"é\" ".toList ++
      List.replicate 70 'y')
    let entries : Entries := [(.text "z".toList, .tuple [.shared .list 0]),
      (.tuple [.int 10, .none], .shared .list 0), (.int 1, .dict [(.text [], long)])]
    (σ.expand (.dict entries)).IsData ∧ ∃ s, render σ entries = .ok s ∧
      Program.literalValue? s = some (σ.expand (.dict entries)) := by
  intro σ long entries
  have htext : ∀ s, (Value.text s).IsData := fun s => Value.isData_of_members trivial rfl
  have hint : ∀ i, Digits.tooLong i = false → (Value.int i).IsData :=
    fun i hi => Value.isData_of_members hi rfl
  -- the list of the store, then where it stands and what stands beside it
  have hcell : (σ.expand (.shared .list 0)).IsData := by
    refine Value.isData_iff.mpr ⟨trivial, ?_⟩
    refine List.forall_mem_cons.mpr ⟨Value.isData_of_members trivial rfl, ?_⟩
    refine List.forall_mem_cons.mpr ⟨hint (-1) (by decide), ?_⟩
    refine List.forall_mem_cons.mpr ⟨htext _, ?_⟩
    exact List.forall_mem_singleton.mpr (Value.isData_of_members ⟨nofun, .nil⟩ rfl)
  have hmember : (σ.expand (.tuple [.shared .list 0])).IsData :=
    Value.isData_iff.mpr ⟨trivial, List.forall_mem_singleton.mpr hcell⟩
  have hkey : (Value.tuple [.int 10, .none]).IsData := by
    refine Value.isData_iff.mpr ⟨trivial, ?_⟩
    exact List.forall_mem_cons.mpr ⟨hint 10 (by decide),
      List.forall_mem_singleton.mpr (Value.isData_of_members trivial rfl)⟩
  have hinner : (Value.dict [(.text [], long)]).IsData := by
    refine Value.isData_iff.mpr ⟨⟨by decide, by decide⟩, ?_⟩
    exact List.forall_mem_cons.mpr ⟨htext [], List.forall_mem_singleton.mpr (htext _)⟩
  have hkeys : Program.AreKeys [.text "z".toList, .tuple [.int 10, .none], .int 1] :=
    ⟨by decide, by decide⟩
  have h : (σ.expand (.dict entries)).IsData := by
    refine Value.isData_iff.mpr ⟨hkeys, Value.forall_mem_members_dict.mpr ?_⟩
    refine List.forall_mem_cons.mpr ⟨⟨htext _, hmember⟩, ?_⟩
    refine List.forall_mem_cons.mpr ⟨⟨hkey, hcell⟩, ?_⟩
    exact List.forall_mem_singleton.mpr ⟨hint 1 (by decide), hinner⟩
  exact ⟨h, literalValue?_render σ entries h⟩

end Data

end Marginalia
