import Marginalia.Proofs.Directive.Grammar
import Marginalia.Proofs.Rewrite.Piece
import Marginalia.Proofs.Settings.Entries

/-!
# Tags that no directive names

Between the brackets of a directive a name ends at a blank, at a comma and at a bracket. No
directive names a tag whose name holds one of these, and rewriting with it changes nothing. Any
other tag has directives, and no line that is one of them stays as it is. Options may give either:
the only names that are refused are blank.

## Main definitions

* `Directive.IsName`: names that a directive can list
* `Directive.bare`: code under a name, without the code
* `Tag.IsLive`, `Tag.IsDead`: tags that have directives, and tags that have none

## Main results

* `Directive.exists_names_iff`: the names that a directive lists
* `Directive.replacement_ne`: no directive is put in its own place
* `Rewrite.rewrite_of_names`, `Rewrite.rewrite_of_not_isName`: rewriting with a single tag
* `Options.resolve_names`: which tags of a configuration are dead, and which names are refused
* `Options.not_forall_resolve_names_blank`: a dead tag
-/

namespace Marginalia

namespace Directive

variable {name line s r : Text} {d : Directive} {tag : Tag} {execEnabled : Bool}

/-! ## Names -/

/-- A name that a directive can list: nothing in it ends a name. -/
structure IsName (name : Text) : Prop where
  ne_nil : name ≠ []
  free : ∀ c ∈ name, isSeparator c = false ∧ c ≠ '[' ∧ c ≠ ']'

/-- A name that a directive lists can be listed. -/
theorem isName_of_names (h : ofLine? line = some d) (hname : d.names name = true) :
    IsName name := by
  obtain ⟨p, t, hp, -, -, -, rfl⟩ := exists_parts_of_ofLine? h
  obtain ⟨hne, hfree, a, b, hlist, -⟩ := (p.means_directive.names name).mp hname
  -- a run of the list is free of separators, and its characters are characters of the list
  refine ⟨hne, fun c hc => ⟨hfree c hc, hp.list c ?_⟩⟩
  rw [hlist]
  simp [hc]

/-- Code under a name, without the code. -/
def bare (name : Text) : Text := Parts.line ⟨[], name, [DirectiveKind.sigil .exec]⟩

theorem IsName.oneLine (h : IsName name) : name.OneLine := by
  intro c hc
  cases hend : isLineEnd c with
  | false => rfl
  | true =>
    have hsep := (h.free c hc).1
    simp [isSeparator, isBlank_of_isLineEnd hend] at hsep

theorem oneLine_bare (h : IsName name) : (bare name).OneLine :=
  Parts.oneLine_line_iff.mpr ⟨.nil, h.oneLine, List.forall_mem_singleton.mpr rfl⟩

/-- A name that can be listed has a directive. -/
theorem ofLine?_bare (h : IsName name) : ofLine? (bare name) = some ⟨[], [name], .exec, []⟩ := by
  refine ofLine?_written .exec (by simp) (.single h.ne_nil fun c hc => (h.free c hc).1) ?_
    h.oneLine ⟨by simp, by simp⟩ .nil
  exact List.forall_mem_singleton.mpr fun c hc => (h.free c hc).2

/-- **The names that a directive lists** are those that hold no blank, no comma and no bracket. -/
theorem exists_names_iff :
    (∃ line d, ofLine? line = some d ∧ d.names name = true) ↔ IsName name := by
  constructor
  · rintro ⟨line, d, h, hname⟩
    exact isName_of_names h hname
  · intro h
    exact ⟨_, _, ofLine?_bare h, by simp [names]⟩

/-! ## What stands in the place of a directive -/

/-- A call of the library starts with the word for it. -/
theorem exists_callText_eq (function : Text) (arguments : List Text) :
    ∃ t, Invocation.callText function arguments = Invocation.importWord ++ t := by
  simp only [Invocation.callText, Invocation.library, List.append_assoc]
  exact ⟨_, rfl⟩

theorem exists_callSource_eq {target format : Except RenderFault Text} {call : Call}
    (h : Invocation.callSource target format call = .ok s) :
    ∃ t, s = Invocation.importWord ++ t := by
  unfold Invocation.callSource at h
  split at h
  · cases h
  · split at h
    · cases h
    · obtain rfl := Except.ok.inj h
      exact exists_callText_eq _ _
  · split at h
    · cases h
    · cases h
    · obtain rfl := Except.ok.inj h
      exact exists_callText_eq _ _

theorem exists_source_eq {i : Invocation} (h : i.source = .ok s) :
    ∃ t, s = Invocation.importWord ++ t := by
  unfold Invocation.source at h
  split at h
  · cases h
  next call hcall =>
  obtain ⟨t, rfl⟩ := exists_callSource_eq hcall
  split at h
  · exact ⟨t, (Except.ok.inj h).symm⟩
  · split at h
    · cases h
    · obtain rfl := Except.ok.inj h
      exact ⟨_, by rw [List.append_assoc, List.append_assoc]⟩

/-- **No directive is put in its own place**, whatever the tag. -/
theorem replacement_ne (hs : ofLine? s = some d) (hr : d.replacement tag execEnabled = .ok r) :
    r ≠ s := by
  rintro rfl
  obtain ⟨t, ht⟩ := exists_eq_indent_append hs
  have hsource : ∀ {i : Invocation}, i.source.map (d.indent ++ ·) = .ok r → False := by
    intro i hi
    obtain ⟨u, hu, rfl⟩ := Value.map_eq_ok_iff.mp hi
    obtain ⟨v, rfl⟩ := exists_source_eq hu
    -- a call starts with no number sign
    have hhead := List.append_cancel_left ht
    rw [Invocation.importWord_eq] at hhead
    cases (List.cons.inj hhead).1
  unfold replacement at hr
  split at hr
  · split at hr
    · next hrun =>
      obtain rfl := Except.ok.inj hr
      have hi : ∀ c ∈ d.indent, isInlineBlank c = true := fun c => isInlineBlank_of_mem_indent hs
      have hnone := ofLine?_indent hi (s := d.payload) fun c hc =>
        isInlineBlank_of_isBlank (isBlank_head_payload hs hc)
      -- code that is run is no directive, and its indentation makes it none
      rw [hs] at hnone
      rw [← hnone] at hrun
      simp at hrun
    · obtain rfl := Except.ok.inj hr
      simp at ht
  · exact hsource hr

end Directive

/-! ## Rewriting with a single tag -/

namespace Rewrite

variable {line t : Text} {d : Directive} {tag : Tag} {execEnabled : Bool} {lines : List Line}

/-- Rewriting with a single tag is a single pass. -/
theorem rewrite_singleton (s : Text) (tag : Tag) (execEnabled : Bool) :
    rewrite s [tag] execEnabled =
      match claim tag execEnabled ((pieces s).map Line.ofPiece) with
      | .error e => ([], .error e)
      | .ok (lines, n) => (claimNotices tag n, .ok (textOf lines)) := by
  unfold rewrite claimAll
  cases claim tag execEnabled ((pieces s).map Line.ofPiece) with
  | error e => rfl
  | ok p => simp [claimAll, Except.map]

/-- A directive is a single line, and its body is the directive. -/
theorem pieces_of_ofLine? (h : Directive.ofLine? line = some d) :
    pieces line = [line] ∧ Directive.ofLine? (body line) = some d := by
  obtain ⟨p, t, hp, hone, ht, rfl, rfl⟩ := Directive.exists_parts_of_ofLine? h
  have hline : Directive.ofLine? p.line = some p.directive := by
    have hp := Directive.ofLine?_line hp hone (t := []) rfl
    rwa [List.append_nil] at hp
  have hne : p.line ≠ [] := by
    obtain ⟨r, hr⟩ := Directive.exists_eq_indent_append hline
    simp [hr]
  -- the only line feed that the line can hold is the one at its end
  have hlf := hone.notMem_lf
  rcases Directive.endsHere_iff.mp ht with rfl | rfl
  · rw [List.append_nil, pieces_eq_filter, segments_of_notMem hlf, body_eq_self hone]
    exact ⟨by simp [hne], hline⟩
  · constructor
    · rw [pieces_eq_filter, segments_append hlf]
      simp [segments]
    · rw [body, Text.dropEndWhile_append p.line (by decide)]
      rw [← body, body_eq_self hone]
      exact hline

/-- **Rewriting a directive with a tag that it names** puts something in its place, unless that
cannot be spelled. -/
theorem rewrite_of_names (h : Directive.ofLine? line = some d) (hname : d.names tag.name = true)
    (execEnabled : Bool) : rewrite line [tag] execEnabled =
      match d.replacement tag execEnabled with
      | .error e => ([], .error e)
      | .ok r => ([.claimed tag.name 1], .ok (r ++ terminator line)) := by
  obtain ⟨hpieces, hbody⟩ := pieces_of_ofLine? h
  have hline : (pieces line).map Line.ofPiece = [.pending line d] := by
    rw [hpieces, List.map_singleton, Line.ofPiece, hbody]
  rw [rewrite_singleton, hline, claim, if_pos hname]
  cases d.replacement tag execEnabled with
  | error e => rfl
  | ok r => simp [claim, Except.map, claimNotices, textOf, Line.text]

/-- A directive that a tag claims does not stay as it is. -/
theorem ne_of_rewrite (h : Directive.ofLine? line = some d) (hname : d.names tag.name = true)
    (ht : (rewrite line [tag] execEnabled).2 = .ok t) : t ≠ line := by
  rw [rewrite_of_names h hname] at ht
  cases hr : d.replacement tag execEnabled with
  | error e =>
    rw [hr] at ht
    cases ht
  | ok r =>
    rw [hr] at ht
    obtain rfl := Except.ok.inj ht
    -- the line keeps what ends it, so that its body would have to stay
    intro heq
    have hbody : r = body line :=
      List.append_cancel_right (heq.trans (body_append_terminator line).symm)
    exact Directive.replacement_ne (pieces_of_ofLine? h).2 hr hbody

/-- A tag that no line names claims none. -/
theorem claim_of_not_names
    (h : ∀ l ∈ lines, ∀ piece d, l = .pending piece d → ¬ d.names tag.name = true) :
    claim tag execEnabled lines = .ok (lines, 0) := by
  induction lines with
  | nil => rfl
  | cons l rest ih =>
    obtain ⟨hl, hrest⟩ := List.forall_mem_cons.mp h
    cases l with
    | settled s =>
      rw [claim, ih hrest]
      rfl
    | pending piece d =>
      rw [claim, if_neg (hl piece d rfl), ih hrest]
      rfl

/-- **Rewriting with a tag whose name no directive can list** changes nothing. -/
theorem rewrite_of_not_isName (h : ¬ Directive.IsName tag.name) (s : Text) (execEnabled : Bool) :
    rewrite s [tag] execEnabled = ([], .ok s) := by
  have hlines : ∀ l ∈ (pieces s).map Line.ofPiece, ∀ piece d, l = .pending piece d →
      ¬ d.names tag.name = true := by
    intro l hl piece d hpending hname
    -- a line is pending only as the directive that its body is
    obtain ⟨p, -, rfl⟩ := List.mem_map.mp hl
    unfold Line.ofPiece at hpending
    split at hpending
    · cases hpending
    · next d' hd =>
      cases hpending
      exact h (Directive.isName_of_names hd hname)
  rw [rewrite_singleton, claim_of_not_names hlines]
  exact Prod.ext rfl (congrArg Except.ok ((textOf_ofPiece _).trans (pieces_flatten s)))

end Rewrite

/-! ## Live and dead tags -/

namespace Tag

variable {tag : Tag}

/-- A tag that directives can name, and whose directives do not stay as they are. -/
structure IsLive (tag : Tag) : Prop where
  /-- There is a directive that names the tag, and it is put out. -/
  bare : ∃ line d, Directive.ofLine? line = some d ∧ d.names tag.name = true ∧
    ∀ execEnabled, Rewrite.rewrite line [tag] execEnabled = ([.claimed tag.name 1], .ok [])
  /-- No directive that names the tag is left as it is. -/
  changes : ∀ line d execEnabled t, Directive.ofLine? line = some d → d.names tag.name = true →
    (Rewrite.rewrite line [tag] execEnabled).2 = .ok t → t ≠ line

/-- A tag that no directive names and that changes no text. -/
structure IsDead (tag : Tag) : Prop where
  unnamed : ∀ line d, Directive.ofLine? line = some d → ¬ d.names tag.name = true
  idle : ∀ s execEnabled, Rewrite.rewrite s [tag] execEnabled = ([], .ok s)

theorem isLive_of_isName (h : Directive.IsName tag.name) : tag.IsLive where
  bare := by
    have hd := Directive.ofLine?_bare h
    have hname : (⟨[], [tag.name], .exec, []⟩ : Directive).names tag.name = true := by
      simp [Directive.names]
    refine ⟨_, _, hd, hname, fun execEnabled => ?_⟩
    -- there is no code to be run, whether the caller allows it or not
    have hr : (⟨[], [tag.name], .exec, []⟩ : Directive).replacement tag execEnabled = .ok [] := by
      cases execEnabled <;> rfl
    rw [Rewrite.rewrite_of_names hd hname, hr]
    dsimp only
    rw [Rewrite.terminator, Rewrite.body_eq_self (Directive.oneLine_bare h), List.drop_length]
    rfl
  changes _ _ _ _ := Rewrite.ne_of_rewrite

theorem isDead_of_not_isName (h : ¬ Directive.IsName tag.name) : tag.IsDead where
  unnamed _ _ hd hname := h (Directive.isName_of_names hd hname)
  idle := Rewrite.rewrite_of_not_isName h

end Tag

namespace Options

variable {tree : FileTree} {σ : Store} {o applied : Options} {c : Config} {tag : Tag}

theorem name_ne_nil_of_resolve (h : (o.resolve tree σ).2 = .ok (some c)) (htag : tag ∈ c.tags) :
    tag.name ≠ [] := by
  obtain ⟨applied, -, hconfig⟩ := exists_applied?_of_resolve h
  obtain ⟨-, -, htags, -⟩ := config_eq_some_iff.mp hconfig
  have hall : ∀ tag ∈ c.tags, tag.name ≠ [] := by
    refine forall_right_of_forall₂ (fun entry tag hfrom => ?_) htags
    obtain ⟨name, -, hne, hname⟩ := hfrom.name
    rwa [hname]
  exact hall tag htag

/-- **Which tags are dead, and which names are refused.** A tag of a configuration has a name. If
this holds no blank, no comma and no bracket, there are directives that name the tag, and rewriting
with the tag alone leaves none of them as it is. Otherwise no directive names the tag, and rewriting
with it changes nothing. Such names are not refused: where all entries give names and ask for
numbers of frames, the call is a configuration error if one of the names is blank, and has a
configuration with tags of these names if none is. -/
theorem resolve_names (tree : FileTree) (σ : Store) (o : Options) :
    (∀ c, (o.resolve tree σ).2 = .ok (some c) → ∀ tag ∈ c.tags,
      tag.name ≠ [] ∧ (Directive.IsName tag.name → tag.IsLive) ∧
        (¬ Directive.IsName tag.name → tag.IsDead)) ∧
    ∀ applied names, o.applied? tree σ = some applied → σ.truthy applied.shown = true →
      σ.Describes applied.shown → σ.Describes applied.format →
      List.Forall₂ (Tag.Names σ) (σ.entriesIn applied.shown) names →
      (∀ entry ∈ σ.entriesIn applied.shown, ∃ n, Tag.Asks σ entry n) →
      ((∃ name ∈ names, ∀ ch ∈ name, isBlank ch = true) →
        ∃ e, (o.resolve tree σ).2 = .error e ∧ e.className = "ConfigError".toList) ∧
      ((∀ name ∈ names, ∃ ch ∈ name, isBlank ch = false) →
        ∃ c, (o.resolve tree σ).2 = .ok (some c) ∧ c.tags.map Tag.name = names.map Text.strip) := by
  constructor
  · intro c h tag htag
    exact ⟨name_ne_nil_of_resolve h htag, Tag.isLive_of_isName, Tag.isDead_of_not_isName⟩
  · intro applied names happlied htrue hshown hformat hnames hasks
    rw [resolve_of_applied? happlied]
    constructor
    · rintro ⟨name, hname, hblank⟩
      apply config_of_not_isEntry hshown hformat htrue
      -- an entry that describes a tag gives no blank name, and it gives no other one
      by_contra hnone
      have hentries : ∀ entry ∈ σ.entriesIn applied.shown, Tag.IsEntry σ entry := by
        simpa using hnone
      have hall : ∀ name ∈ names, name.strip ≠ [] := by
        refine forall_right_of_forall₂ ?_ ((List.forall₂_and_left _ _).mpr ⟨hentries, hnames⟩)
        rintro entry name ⟨⟨⟨name', hgiven, hne⟩, -⟩, hname⟩
        rwa [hname.eq hgiven]
      exact hall name hname (Text.strip_eq_nil_iff.mpr hblank)
    · intro hall
      have hentries : ∀ entry ∈ σ.entriesIn applied.shown,
          ∃ name, Tag.Names σ entry name ∧ name.strip ≠ [] := by
        refine forall_right_of_forall₂ ?_ ((List.forall₂_and_left _ _).mpr ⟨hall, hnames.flip⟩)
        rintro name entry ⟨⟨ch, hch, hblank⟩, hname⟩
        refine ⟨name, hname, fun hnil => ?_⟩
        have hblank' := Text.strip_eq_nil_iff.mp hnil ch hch
        rw [hblank] at hblank'
        cases hblank'
      obtain ⟨c, hc⟩ := exists_config_of_isEntry hshown hformat htrue fun entry hentry =>
        ⟨hentries entry hentry, hasks entry hentry⟩
      obtain ⟨-, -, htags, -⟩ := config_eq_some_iff.mp hc
      exact ⟨c, hc, Tag.map_name_of_forall₂ htags hnames⟩

/-- A blank inside a name makes a dead tag, next to a live one, and a name of blanks is refused. -/
theorem resolve_names_blank :
    let o : Text → Options := fun name =>
      { empty with shown := .list [.text "a".toList, .text name] }
    (∃ c live dead, ((o " b c ".toList).resolve ⟨[], []⟩ .empty).2 = .ok (some c) ∧
        c.tags = [live, dead] ∧ dead.name = "b c".toList ∧ live.IsLive ∧ dead.IsDead) ∧
      ∃ e, ((o " ".toList).resolve ⟨[], []⟩ .empty).2 = .error e ∧
        e.className = "ConfigError".toList := by
  intro o
  constructor
  · let live : Tag := ⟨"a".toList, 0, .none, .text "data".toList⟩
    let dead : Tag := ⟨"b c".toList, 0, .none, .text "data".toList⟩
    have hresolve : ((o " b c ".toList).resolve ⟨[], []⟩ .empty).2 =
        .ok (some ⟨[live, dead], .none, "data".toList, false⟩) := rfl
    obtain ⟨htags, -⟩ := resolve_names ⟨[], []⟩ .empty (o " b c ".toList)
    -- blanks at the ends of a name are cut off, the one inside stays
    have hlive := (htags _ hresolve live (by simp)).2.1 ⟨by decide, by decide⟩
    have hdead := (htags _ hresolve dead (by simp)).2.2 fun h =>
      absurd (h.free ' ' (by decide)).1 (by decide)
    exact ⟨_, live, dead, hresolve, rfl, rfl, hlive, hdead⟩
  · obtain ⟨-, hnames⟩ := resolve_names ⟨[], []⟩ .empty (o " ".toList)
    have hgiven : List.Forall₂ (Tag.Names .empty) [.text "a".toList, .text " ".toList]
        ["a".toList, " ".toList] := .cons (.bare rfl) (.cons (.bare rfl) .nil)
    have hasks : ∀ entry ∈ [Value.text "a".toList, .text " ".toList],
        ∃ n, Tag.Asks .empty entry n := by
      simp only [List.forall_mem_cons, List.not_mem_nil, false_imp_iff, implies_true, and_true]
      exact ⟨⟨0, .absent rfl⟩, ⟨0, .absent rfl⟩⟩
    have hshown : Store.empty.Describes (o " ".toList).shown :=
      Store.describes_of_isSound ⟨rfl, rfl⟩
    have hrefused := (hnames _ _ rfl rfl hshown rfl hgiven hasks).1
    exact hrefused ⟨" ".toList, List.mem_cons_of_mem _ List.mem_cons_self, by decide⟩

/-- A name with a blank in it is not refused, and no directive names its tag. -/
theorem not_forall_resolve_names_blank :
    ¬ ∀ (tree : FileTree) (σ : Store) (o : Options) (c : Config),
      (o.resolve tree σ).2 = .ok (some c) → ∀ tag ∈ c.tags,
        ∃ line d, Directive.ofLine? line = some d ∧ d.names tag.name = true := by
  intro h
  let o : Options := { empty with shown := .text "a b".toList }
  let tag : Tag := ⟨"a b".toList, 0, .none, .text "data".toList⟩
  have hresolve : (o.resolve ⟨[], []⟩ .empty).2 =
      .ok (some ⟨[tag], .none, "data".toList, false⟩) := rfl
  have hname := Directive.exists_names_iff.mp (h _ _ o _ hresolve tag (by simp))
  exact absurd (hname.free ' ' (by decide)).1 (by decide)

end Options

end Marginalia
