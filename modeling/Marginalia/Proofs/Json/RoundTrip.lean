import Mathlib.Data.List.Nodup
import Marginalia.Proofs.Json.Scalar
import Marginalia.Proofs.Json.Writer
import Marginalia.Proofs.Text.Ends

/-!
# Reading what has been written

The JSON text of a value is read back as that value, if it is made of what JSON has forms for: none,
truth values, integers that are not too long, texts, lists, and dictionaries with texts as keys.

## Main definitions

* `Json.Plain`: values that JSON has a form for
* `Json.Awaits`, `Json.AwaitsKey`: readers that take a value, or a key, next
* `Json.Chain`: pieces with separators between them
* `Json.Reads`: values that readers take by their texts

## Main results

* `Json.reads_of_plain`: the text of a value takes a reader past the value
* `Json.succeeds_write_of_plain`: which values have a text
* `Json.read_write_append`, `Json.exists_render`: the text of a value is read back
* `Json.notMem_cr_write`, `Json.braces_of_write`: what the text of a dictionary looks like
-/

namespace Marginalia

namespace Json

variable {frames : List Frame} {reader reader' reader'' : Reader} {c : Char} {t : Text}

/-! ## What has a form -/

/-- Whether a part by itself has a form: a dictionary has texts as keys, and none of them twice. -/
def HasForm : Value → Prop
  | .none | .bool _ | .text _ | .list _ => True
  | .int i => Digits.tooLong i = false
  | .dict entries => (∀ e ∈ entries, ∃ s, e.1 = .text s) ∧ (entries.map Prod.fst).Nodup
  | _ => False

/-- The value is made of what JSON has forms for. -/
def Plain (v : Value) : Prop := ∀ w : Value, w.Within v → HasForm w

theorem plain_iff_members {v : Value} : Plain v ↔ HasForm v ∧ ∀ u ∈ v.members, Plain u :=
  Value.forall_within_iff

theorem plain_none : Plain .none := plain_iff_members.mpr ⟨trivial, nofun⟩

theorem plain_bool (b : Bool) : Plain (.bool b) := plain_iff_members.mpr ⟨trivial, nofun⟩

theorem plain_int {i : Int} (h : Digits.tooLong i = false) : Plain (.int i) :=
  plain_iff_members.mpr ⟨h, nofun⟩

theorem plain_text (s : Text) : Plain (.text s) := plain_iff_members.mpr ⟨trivial, nofun⟩

theorem plain_list {items : List Value} (h : ∀ v ∈ items, Plain v) : Plain (.list items) :=
  plain_iff_members.mpr ⟨trivial, h⟩

/-- A dictionary whose keys are different texts has a form if its values have. -/
theorem plain_dict {entries : Entries} (keys : List Text)
    (hkeys : entries.map Prod.fst = keys.map .text) (hnodup : keys.Nodup)
    (h : ∀ e ∈ entries, Plain e.2) : Plain (.dict entries) := by
  have htext : ∀ e ∈ entries, ∃ s, e.1 = .text s := by
    intro e he
    have hmem : e.1 ∈ keys.map Value.text := hkeys ▸ List.mem_map_of_mem he
    obtain ⟨s, -, hs⟩ := List.mem_map.mp hmem
    exact ⟨s, hs.symm⟩
  refine plain_iff_members.mpr ⟨⟨htext, ?_⟩, Value.forall_mem_members_dict.mpr ?_⟩
  · rw [hkeys]
    exact List.Nodup.map (fun _ _ h => Value.text.inj h) hnodup
  · intro e he
    obtain ⟨s, hs⟩ := htext e he
    exact ⟨hs ▸ plain_text s, h e he⟩

/-- A new key comes last. -/
theorem insert_of_forall_ne {key : Text} {v : Value} {entries : Entries}
    (h : ∀ e ∈ entries, e.1 ≠ .text key) :
    Value.insert (.text key) v entries = entries ++ [(.text key, v)] := by
  induction entries with
  | nil => rfl
  | cons e rest ih =>
    obtain ⟨he, hrest⟩ := List.forall_mem_cons.mp h
    have hother : ¬ e.1.equals (.text key) = true := fun heq => he (Value.eq_text_of_equals heq)
    rw [Value.insert, if_neg hother, ih hrest, List.cons_append]

/-- Different keys do not stand before one another. -/
theorem ne_of_nodup_map {before rest : Entries} {k v : Value}
    (h : ((before ++ (k, v) :: rest).map Prod.fst).Nodup) : ∀ e ∈ before, e.1 ≠ k := by
  rw [List.map_append, List.map_cons] at h
  exact fun e he heq => (List.nodup_append.mp h).2.2 e.1 (List.mem_map_of_mem he) k
    List.mem_cons_self heq

/-! ## Pieces -/

theorem Passes.mono {p q : Text → Prop} (h : Passes p t reader reader') (hq : ∀ r, q r → p r) :
    Passes q t reader reader' := fun pos rest hrest => h pos rest (hq rest hrest)

theorem passes_gaps (h : ∀ c ∈ t, isGap c = true) (reader : Reader) :
    Passes Anything t reader reader := by
  induction t with
  | nil => exact fun pos rest _ => rfl
  | cons c t ih =>
    obtain ⟨hc, ht⟩ := List.forall_mem_cons.mp h
    intro pos rest hrest
    rw [List.cons_append, Reader.scan_cons_gap hc, ih ht _ rest hrest, List.length_cons,
      Nat.add_assoc, Nat.add_comm 1]

theorem isGap_of_mem_newLine (depth : Nat) : ∀ c ∈ newLine depth, isGap c = true := by
  refine List.forall_mem_cons.mpr ⟨rfl, fun c hc => ?_⟩
  rw [List.eq_of_mem_replicate hc]
  rfl

theorem endsNumeral_nil : EndsNumeral [] := by
  rintro c ⟨⟩

theorem endsNumeral_cons (h : Digits.isDigit c = false ∧ c ≠ '.' ∧ c ≠ 'e' ∧ c ≠ 'E') (r : Text) :
    EndsNumeral (c :: r) := fun _ hd => Option.some.inj hd ▸ h

/-- A punctuation mark and gaps. -/
theorem passes_mark {token : Token} (hgap : isGap c = false) (hc : punctuation? c = some token)
    (hstep : ∀ pos, step reader ⟨pos, token⟩ = .ok reader') (ht : ∀ d ∈ t, isGap d = true) :
    Passes Anything (c :: t) reader reader' :=
  ((denotes_punctuation hgap hc).passes hstep).append (passes_gaps ht reader') fun _ _ => trivial

/-- Pieces that each may end with a numeral, with separators between neighbours. -/
inductive Chain (sep : Text) : Reader → List Text → Reader → Prop
  | single {reader reader' : Reader} {t : Text} (h : Passes EndsNumeral t reader reader') :
    Chain sep reader [t] reader'
  | cons {reader reader₁ reader₂ reader' : Reader} {t : Text} {ts : List Text}
    (h : Passes EndsNumeral t reader reader₁) (hsep : Passes Anything sep reader₁ reader₂)
    (hrest : Chain sep reader₂ ts reader') : Chain sep reader (t :: ts) reader'

theorem Chain.ne_nil {sep : Text} {ts : List Text} (h : Chain sep reader ts reader') : ts ≠ [] := by
  cases h <;> exact List.cons_ne_nil _ _

/-- **Pieces with separators between them.** -/
theorem Chain.passes {sep : Text} {ts : List Text} (h : Chain sep reader ts reader')
    (hsep : ∀ r, EndsNumeral (sep ++ r)) :
    Passes EndsNumeral (Text.joined sep ts) reader reader' := by
  induction h with
  | single h => exact h
  | @cons _ _ _ _ t ts h hs hrest ih =>
    obtain ⟨u, us, rfl⟩ := List.exists_cons_of_ne_nil hrest.ne_nil
    rw [Text.joined_cons_cons]
    exact (h.append hs fun rest _ => hsep rest).append ih fun _ _ => trivial

/-- The pieces of a container between its brackets. -/
theorem Chain.passes_block {left right : Char} {depth : Nat} {ts : List Text}
    {opened closed : Reader} (hleft : Passes Anything [left] reader opened)
    (h : Chain (',' :: newLine (depth + 1)) opened ts closed)
    (hright : Passes Anything [right] closed reader') :
    Passes Anything (block left right depth ts) reader reader' := by
  have hinner := h.passes fun r => endsNumeral_cons (by decide) _
  have hlead := hleft.append (passes_gaps (isGap_of_mem_newLine (depth + 1)) opened)
    fun _ _ => trivial
  have htail := (passes_gaps (isGap_of_mem_newLine depth) closed).append hright fun _ _ => trivial
  have hall := (hlead.append hinner fun _ _ => trivial).append htail
    fun rest _ => endsNumeral_cons (by decide) _
  have hne : ts.isEmpty = false := by simpa using h.ne_nil
  unfold block
  rw [hne]
  simpa using hall

/-! ## Readers -/

/-- The reader takes a value next, inside the frames; it may also take the end of an array. -/
def Awaits (reader : Reader) (frames : List Frame) : Prop :=
  ∀ pos token, token ≠ .closeArray →
    step reader ⟨pos, token⟩ = beginValue frames (.malformed .value pos) token

theorem awaits_value (frames : List Frame) : Awaits ⟨frames, .value⟩ frames := fun _ _ _ => rfl

theorem awaits_firstItem (frames : List Frame) :
    Awaits ⟨frames, .firstItem⟩ (.array [] :: frames) := fun pos token h => by
  cases token <;> first | rfl | exact absurd rfl h

theorem Awaits.mark {token : Token} (h : Awaits reader frames) (hgap : isGap c = false)
    (hc : punctuation? c = some token) (htoken : token ≠ .closeArray)
    (hbegin : ∀ pos, beginValue frames (.malformed .value pos) token = .ok reader') :
    Passes Anything [c] reader reader' :=
  (denotes_punctuation hgap hc).passes fun pos => (h pos token htoken).trans (hbegin pos)

theorem Awaits.text (h : Awaits reader frames) (s : Text) :
    Passes Anything (quote s) reader ⟨frames, .after (.text s)⟩ :=
  (denotes_quote s).passes fun pos => h pos _ (by simp)

theorem Awaits.step_scalar (h : Awaits reader frames) (v : Value) (pos : Nat) :
    step reader ⟨pos, .scalar v⟩ = .ok ⟨frames, .after v⟩ := h pos _ (by simp)

/-- The reader takes a key next that follows some entries; it may also take the end of an object. -/
def AwaitsKey (reader : Reader) (frames : List Frame) (entries : Entries) : Prop :=
  ∀ pos s, step reader ⟨pos, .text s⟩ = .ok ⟨frames, .colon entries s⟩

theorem awaitsKey_key (frames : List Frame) (entries : Entries) :
    AwaitsKey ⟨frames, .key entries⟩ frames entries := fun _ _ => rfl

theorem awaitsKey_firstKey (frames : List Frame) : AwaitsKey ⟨frames, .firstKey⟩ frames [] :=
  fun _ _ => rfl

/-! ## Texts of values -/

/-- The text of the value takes any reader that awaits a value past the value. -/
def Reads (depth : Nat) (v : Value) : Prop := ∀ {t : Text} {reader : Reader} {frames : List Frame},
  write depth v = .ok t → Awaits reader frames → Passes EndsNumeral t reader ⟨frames, .after v⟩

/-- The texts of items follow one another in an array, up to its bracket. -/
theorem chain_items {depth : Nat} {items before : List Value} {ts : List Text}
    (hitems : ∀ v ∈ items, Reads depth v) (hne : items ≠ [])
    (h : writeAll depth items = .ok ts) (hreader : Awaits reader (.array before :: frames)) :
    ∃ closed, Chain (',' :: newLine depth) reader ts closed ∧
      Passes Anything [']'] closed ⟨frames, .after (.list (before ++ items))⟩ := by
  induction items generalizing before reader ts with
  | nil => exact absurd rfl hne
  | cons v vs ih =>
    obtain ⟨hv, hvs⟩ := List.forall_mem_cons.mp hitems
    rw [writeAll] at h
    split at h
    · cases h
    next t ht =>
    have hpiece := hv ht hreader
    -- the bracket follows the last item, and a separator each of the others
    cases vs with
    | nil =>
      obtain rfl := Except.ok.inj h
      exact ⟨_, .single hpiece, (denotes_punctuation rfl rfl).passes fun _ => rfl⟩
    | cons w ws =>
      obtain ⟨us, hws, rfl⟩ := Value.map_eq_ok_iff.mp h
      have hnext : Awaits ⟨.array (before ++ [v]) :: frames, .value⟩
        (.array (before ++ [v]) :: frames) := awaits_value _
      obtain ⟨closed, hchain, hclose⟩ := ih hvs (List.cons_ne_nil w ws) hws hnext
      rw [List.append_assoc, List.singleton_append] at hclose
      exact ⟨closed, .cons hpiece
        (passes_mark rfl rfl (fun _ => rfl) (isGap_of_mem_newLine depth)) hchain, hclose⟩

/-- The text of an entry takes a reader that awaits a key past the entry. -/
theorem passes_entry {depth : Nat} {v : Value} {entries : Entries} (key : Text)
    (hv : Reads depth v) (h : write depth v = .ok t) (hreader : AwaitsKey reader frames entries) :
    Passes EndsNumeral (quote key ++ colonSpace ++ t) reader
      ⟨.member entries key :: frames, .after v⟩ := by
  have hkey : Passes Anything (quote key) reader ⟨frames, .colon entries key⟩ :=
    (denotes_quote key).passes fun pos => hreader pos key
  have hcolon : Passes Anything colonSpace ⟨frames, .colon entries key⟩
      ⟨.member entries key :: frames, .value⟩ :=
    passes_mark rfl rfl (fun _ => rfl) (by decide)
  exact (hkey.append hcolon fun _ _ => trivial).append (hv h (awaits_value _)) fun _ _ => trivial

/-- The texts of entries follow one another in an object, up to its bracket. -/
theorem chain_entries {depth : Nat} {entries before : Entries} {ts : List Text}
    (hentries : ∀ e ∈ entries, Reads depth e.2) (hne : entries ≠ [])
    (hkeys : ∀ e ∈ entries, ∃ s, e.1 = .text s)
    (hnodup : ((before ++ entries).map Prod.fst).Nodup)
    (h : writeEntries depth entries = .ok ts) (hreader : AwaitsKey reader frames before) :
    ∃ closed, Chain (',' :: newLine depth) reader ts closed ∧
      Passes Anything ['\x7d'] closed ⟨frames, .after (.dict (before ++ entries))⟩ := by
  induction entries generalizing before reader ts with
  | nil => exact absurd rfl hne
  | cons e rest ih =>
    obtain ⟨k, v⟩ := e
    obtain ⟨hv, hrest⟩ := List.forall_mem_cons.mp hentries
    obtain ⟨⟨key, hkey⟩, hkeys'⟩ := List.forall_mem_cons.mp hkeys
    obtain rfl : k = .text key := hkey
    -- no entry before has the key, so that the reader adds one at the end
    have hinsert := insert_of_forall_ne (v := v) (ne_of_nodup_map hnodup)
    rw [writeEntries, keyText] at h
    dsimp only at h
    split at h
    · cases h
    next t ht =>
    have hpiece := passes_entry key hv ht hreader
    cases rest with
    | nil =>
      obtain rfl := Except.ok.inj h
      refine ⟨_, .single hpiece, (denotes_punctuation rfl rfl).passes fun _ => ?_⟩
      rw [← hinsert]
      rfl
    | cons w ws =>
      obtain ⟨us, hws, rfl⟩ := Value.map_eq_ok_iff.mp h
      have hnext := awaitsKey_key frames (before ++ [(.text key, v)])
      obtain ⟨closed, hchain, hclose⟩ := ih hrest (List.cons_ne_nil w ws) hkeys'
        (by rwa [List.append_assoc]) hws hnext
      rw [List.append_assoc, List.singleton_append] at hclose
      refine ⟨closed, .cons hpiece
        (passes_mark rfl rfl (fun _ => ?_) (isGap_of_mem_newLine depth)) hchain, hclose⟩
      rw [← hinsert]
      rfl

/-- **The text of a value takes a reader past the value.** -/
theorem reads_of_plain {v : Value} (hv : Plain v) (depth : Nat) : Reads depth v := by
  induction v using Value.induction generalizing depth with
  | h v ih =>
    obtain ⟨hform, hmembers⟩ := plain_iff_members.mp hv
    intro t reader frames h hreader
    cases v with
    | none =>
      obtain rfl := Except.ok.inj h
      exact (denotes_null.passes (hreader.step_scalar _)).mono fun _ _ => trivial
    | bool b =>
      obtain rfl := Except.ok.inj h
      exact ((denotes_boolText b).passes (hreader.step_scalar _)).mono fun _ _ => trivial
    | text s =>
      obtain rfl := Except.ok.inj h
      exact (hreader.text s).mono fun _ _ => trivial
    | int i =>
      rw [write, spellInt, if_neg (by simpa [HasForm] using hform)] at h
      obtain rfl := Except.ok.inj h
      exact (denotes_int hform).passes (hreader.step_scalar _)
    | list items =>
      rw [write] at h
      obtain ⟨ts, hts, rfl⟩ := Value.map_eq_ok_iff.mp h
      have hopen : Passes Anything ['['] reader ⟨frames, .firstItem⟩ :=
        hreader.mark rfl rfl (by simp) fun _ => rfl
      refine Passes.mono ?_ fun _ _ => trivial
      by_cases hne : items = []
      · -- without members there is no line between the brackets
        subst hne
        obtain rfl := Except.ok.inj hts
        exact hopen.append ((denotes_punctuation rfl rfl).passes fun _ => rfl) fun _ _ => trivial
      · obtain ⟨closed, hchain, hclose⟩ := chain_items (fun u hu => ih u hu (hmembers u hu) _) hne
          hts (awaits_firstItem frames)
        exact hchain.passes_block hopen hclose
    | dict entries =>
      obtain ⟨hkeys, hnodup⟩ := hform
      rw [write] at h
      obtain ⟨ts, hts, rfl⟩ := Value.map_eq_ok_iff.mp h
      have hopen : Passes Anything ['\x7b'] reader ⟨frames, .firstKey⟩ :=
        hreader.mark rfl rfl (by simp) fun _ => rfl
      refine Passes.mono ?_ fun _ _ => trivial
      by_cases hne : entries = []
      · subst hne
        obtain rfl := Except.ok.inj hts
        exact hopen.append ((denotes_punctuation rfl rfl).passes fun _ => rfl) fun _ _ => trivial
      · rw [Value.forall_mem_members_dict] at ih hmembers
        obtain ⟨closed, hchain, hclose⟩ := chain_entries
          (fun e he => (ih e he).2 (hmembers e he).2 _) hne hkeys
          (show ((([] : Entries) ++ entries).map Prod.fst).Nodup from hnodup) hts
          (awaitsKey_firstKey frames)
        exact hchain.passes_block hopen hclose
    | float _ | bytes _ | foreign _ | tuple _ | set _ | shared _ _ => exact absurd hform id

/-! ## Whole texts -/

/-- A value with forms for all its parts has a text. -/
theorem succeeds_write_of_plain {v : Value} (hv : Plain v) (depth : Nat) :
    Value.succeeds (write depth v) = true := by
  induction v using Value.induction generalizing depth with
  | h v ih =>
    obtain ⟨hform, hmembers⟩ := plain_iff_members.mp hv
    cases v with
    | none | bool _ | text _ => rfl
    | int i =>
      rw [write, spellInt, if_neg (by simpa [HasForm] using hform)]
      rfl
    | list items =>
      rw [write, Value.succeeds_map, succeeds_writeAll]
      exact fun u hu => ih u hu (hmembers u hu) _
    | dict entries =>
      rw [Value.forall_mem_members_dict] at ih hmembers
      rw [write, Value.succeeds_map, succeeds_writeEntries]
      intro e he
      obtain ⟨key, hkey⟩ := hform.1 e he
      exact ⟨by rw [hkey]; rfl, (ih e he).2 (hmembers e he).2 _⟩
    | float _ | bytes _ | foreign _ | tuple _ | set _ | shared _ _ => exact absurd hform id

/-- No reader takes a byte order mark. -/
theorem scan_byteOrderMark (r : Text) :
    Reader.start.scan 0 (byteOrderMark :: r) = .error (.malformed .value 0) := by
  rw [Reader.scan, tokensAt_cons (by decide)]
  rfl

/-- No numeral goes on with gaps. -/
theorem endsNumeral_gaps {u : Text} (hu : ∀ c ∈ u, isGap c = true) : EndsNumeral u := by
  cases u with
  | nil => exact endsNumeral_nil
  | cons c u =>
    have hc : isGap c = true := hu c List.mem_cons_self
    simp only [isGap, Bool.or_eq_true, beq_iff_eq] at hc
    refine endsNumeral_cons ?_ u
    rcases hc with ((rfl | rfl) | rfl) | rfl <;> decide

/-- **The text of a value is read back**, with gaps behind it. -/
theorem read_write_append {v : Value} {u : Text} (hv : Plain v) (h : write 0 v = .ok t)
    (hu : ∀ c ∈ u, isGap c = true) : read (t ++ u) = .ok v := by
  have hscan : Reader.start.scan 0 (t ++ u) = .ok ⟨[], .after v⟩ := by
    have htext := reads_of_plain hv 0 h (awaits_value []) 0 u (endsNumeral_gaps hu)
    have hgaps := passes_gaps hu ⟨[], .after v⟩ (0 + t.length) [] trivial
    rw [List.append_nil] at hgaps
    exact htext.trans hgaps
  have hhead : (t ++ u).head? ≠ some byteOrderMark := by
    intro hhead
    obtain ⟨r, hr⟩ := List.head?_eq_some_iff.mp hhead
    rw [hr] at hscan
    cases (scan_byteOrderMark r).symm.trans hscan
  have htokens : runFrom Reader.start (tokens (t ++ u)) = .ok ⟨[], .after v⟩ := hscan
  rw [read, if_neg hhead, htokens]
  rfl

/-- The text of a value is read back. -/
theorem read_write {v : Value} (hv : Plain v) (h : write 0 v = .ok t) : read t = .ok v := by
  simpa using read_write_append hv h (List.forall_mem_nil _)

/-- A value with forms for all its parts holds neither references nor objects. -/
theorem Plain.plain {v : Value} (hv : Plain v) : v.plain = true := by
  induction v using Value.induction with
  | h v ih =>
    obtain ⟨hform, hmembers⟩ := plain_iff_members.mp hv
    cases v with
    | list items => exact Value.plainAll_iff.mpr fun u hu => ih u hu (hmembers u hu)
    | dict entries =>
      rw [Value.forall_mem_members_dict] at ih hmembers
      exact Value.plainEntries_iff.mpr fun e he =>
        ⟨(ih e he).1 (hmembers e he).1, (ih e he).2 (hmembers e he).2⟩
    | tuple _ | set _ | foreign _ | shared _ _ => exact absurd hform id
    | _ => rfl

/-- **A dictionary has a text, which is read back.** -/
theorem exists_render (σ : Store) {entries : Entries} (h : Plain (.dict entries)) :
    ∃ s, render σ entries = .ok s ∧ write 0 (.dict entries) = .ok s ∧
      read s = .ok (.dict entries) := by
  have hwrite := succeeds_write_of_plain h 0
  cases hs : write 0 (.dict entries) with
  | error e => simp [hs] at hwrite
  | ok s => exact ⟨s, by rw [render, σ.expand_plain h.plain, hs], rfl, read_write h hs⟩

/-! ## Characters of texts -/

theorem exists_of_mem_writeAll {depth : Nat} {items : List Value} {ts : List Text}
    (h : writeAll depth items = .ok ts) (ht : t ∈ ts) : ∃ v ∈ items, write depth v = .ok t := by
  induction items generalizing ts with
  | nil =>
    obtain rfl := Except.ok.inj h
    cases ht
  | cons v vs ih =>
    rw [writeAll] at h
    split at h
    · cases h
    next u hu =>
    obtain ⟨us, hvs, rfl⟩ := Value.map_eq_ok_iff.mp h
    obtain rfl | ht := List.mem_cons.mp ht
    · exact ⟨v, List.mem_cons_self, hu⟩
    · obtain ⟨w, hw, ht⟩ := ih hvs ht
      exact ⟨w, List.mem_cons_of_mem v hw, ht⟩

theorem exists_of_mem_writeEntries {depth : Nat} {entries : Entries} {ts : List Text}
    (h : writeEntries depth entries = .ok ts) (ht : t ∈ ts) :
    ∃ e ∈ entries, ∃ key u, write depth e.2 = .ok u ∧ t = quote key ++ colonSpace ++ u := by
  induction entries generalizing ts with
  | nil =>
    obtain rfl := Except.ok.inj h
    cases ht
  | cons e rest ih =>
    obtain ⟨k, v⟩ := e
    rw [writeEntries] at h
    split at h
    · cases h
    next key _ =>
    split at h
    · cases h
    next u hu =>
    obtain ⟨us, hrest, rfl⟩ := Value.map_eq_ok_iff.mp h
    obtain rfl | ht := List.mem_cons.mp ht
    · exact ⟨(k, v), List.mem_cons_self, key, u, hu, rfl⟩
    · obtain ⟨e, he, ht⟩ := ih hrest ht
      exact ⟨e, List.mem_cons_of_mem _ he, ht⟩

theorem notMem_cr_newLine (depth : Nat) : '\r' ∉ newLine depth := by
  intro h
  obtain h | h := List.mem_cons.mp h
  · cases h
  · cases List.eq_of_mem_replicate h

theorem notMem_cr_hexWide (w n : Nat) : '\r' ∉ Digits.hexWide false w n := by
  induction w generalizing n with
  | zero => exact List.not_mem_nil
  | succ w ih =>
    intro h
    obtain h | h := List.mem_append.mp h
    · exact ih _ h
    · have hvalue := Digits.hexValue?_hexDigit false (Nat.mod_lt n (by decide : 0 < 16))
      rw [← List.mem_singleton.mp h] at hvalue
      cases hvalue

/-- A carriage return is escaped. -/
theorem notMem_cr_escape (c : Char) : '\r' ∉ escape c := by
  unfold escape
  split
  · next h => rcases h with rfl | rfl <;> decide
  split
  · decide
  split
  · decide
  split
  · decide
  split
  · decide
  split
  · decide
  split
  · intro h
    obtain h | h := List.mem_cons.mp h
    · cases h
    obtain h | h := List.mem_cons.mp h
    · cases h
    · exact notMem_cr_hexWide _ _ h
  · next h _ _ _ _ => exact fun hmem => h (List.mem_singleton.mp hmem).symm

theorem notMem_cr_quote (s : Text) : '\r' ∉ quote s := by
  intro h
  obtain h | h := List.mem_append.mp h
  · obtain h | h := List.mem_cons.mp h
    · cases h
    · obtain ⟨c, -, hc⟩ := List.mem_flatMap.mp h
      exact notMem_cr_escape c hc
  · cases List.mem_singleton.mp h

theorem notMem_cr_block {left right : Char} {depth : Nat} {ts : List Text} (hl : '\r' ≠ left)
    (hr : '\r' ≠ right) (h : ∀ t ∈ ts, '\r' ∉ t) : '\r' ∉ block left right depth ts := by
  have hjoined : '\r' ∉ Text.joined (',' :: newLine (depth + 1)) ts := fun hmem => by
    obtain hmem | ⟨t, ht, hmem⟩ := Text.mem_joined hmem
    · obtain hmem | hmem := List.mem_cons.mp hmem
      · cases hmem
      · exact notMem_cr_newLine _ hmem
    · exact h t ht hmem
  unfold block
  split
  · simp [hl, hr]
  · simp [hl, hr, hjoined, notMem_cr_newLine]

theorem notMem_cr_decimalInt (i : Int) : '\r' ∉ Digits.decimalInt i := by
  have hdecimal : ∀ n, '\r' ∉ Digits.decimal n := fun n h =>
    absurd (Digits.decimal_isDigit n _ h) (by decide)
  cases i with
  | ofNat n => exact hdecimal n
  | negSucc n => exact List.not_mem_cons_of_ne_of_not_mem (by decide) (hdecimal _)

/-- The text of a value holds no carriage return. -/
theorem notMem_cr_write {v : Value} (hv : Plain v) {depth : Nat} (h : write depth v = .ok t) :
    '\r' ∉ t := by
  induction v using Value.induction generalizing depth t with
  | h v ih =>
    obtain ⟨hform, hmembers⟩ := plain_iff_members.mp hv
    cases v with
    | none =>
      obtain rfl := Except.ok.inj h
      decide
    | bool b =>
      obtain rfl := Except.ok.inj h
      cases b <;> decide
    | text s =>
      obtain rfl := Except.ok.inj h
      exact notMem_cr_quote s
    | int i =>
      rw [write, spellInt, if_neg (by simpa [HasForm] using hform)] at h
      obtain rfl := Except.ok.inj h
      exact notMem_cr_decimalInt i
    | list items =>
      rw [write] at h
      obtain ⟨ts, hts, rfl⟩ := Value.map_eq_ok_iff.mp h
      refine notMem_cr_block (by decide) (by decide) fun u hu => ?_
      obtain ⟨w, hw, hwrite⟩ := exists_of_mem_writeAll hts hu
      exact ih w hw (hmembers w hw) hwrite
    | dict entries =>
      rw [write] at h
      obtain ⟨ts, hts, rfl⟩ := Value.map_eq_ok_iff.mp h
      rw [Value.forall_mem_members_dict] at ih hmembers
      refine notMem_cr_block (by decide) (by decide) fun u hu => ?_
      obtain ⟨e, he, key, w, hwrite, rfl⟩ := exists_of_mem_writeEntries hts hu
      have hvalue := (ih e he).2 (hmembers e he).2 hwrite
      have hcolon : '\r' ∉ colonSpace := by decide
      simp [hvalue, hcolon, notMem_cr_quote]
    | float _ | bytes _ | foreign _ | tuple _ | set _ | shared _ _ => exact absurd hform id

/-- The text of a dictionary stands between braces. -/
theorem braces_of_write {entries : Entries} {depth : Nat}
    (h : write depth (.dict entries) = .ok t) :
    t.head? = some '\x7b' ∧ t.getLast? = some '\x7d' := by
  rw [write] at h
  obtain ⟨ts, -, rfl⟩ := Value.map_eq_ok_iff.mp h
  unfold block
  split
  · exact ⟨rfl, rfl⟩
  · exact ⟨rfl, List.getLast?_concat⟩

end Json

end Marginalia
