import Marginalia.Proofs.Settings.FixedPoint

/-!
# Written dictionaries as settings

The JSON text of a dictionary can be given as settings. It is taken for the object itself, whatever
files there are, and the recognised members of the dictionary come back as they went in.

## Main results

* `Value.lookup?_eq_some_iff`: what is found under a key is what stands there
* `Settings.mem_recognised_iff`, `Settings.sublist_recognised`: which members are recognised
* `Settings.load_render`: the recognised members of a dictionary come back from its JSON text
-/

namespace Marginalia

namespace Value

variable {entries : Entries} {key : Text} {v : Value}

/-- What is found under a key stands there. -/
theorem mem_of_lookup? (h : lookup? key entries = some v) : (.text key, v) ∈ entries := by
  induction entries with
  | nil => cases h
  | cons e rest ih =>
    unfold lookup? at h
    split at h
    · cases h
    · next heq =>
      obtain ⟨rfl, rfl⟩ := List.cons.inj heq
      split at h
      · next hs =>
        rw [← hs, Option.some.inj h]
        exact List.mem_cons_self
      · exact List.mem_cons_of_mem _ (ih h)
    · next heq =>
      obtain ⟨rfl, rfl⟩ := List.cons.inj heq
      exact List.mem_cons_of_mem _ (ih h)

/-- What is found under a key is what stands there, if all keys are texts and no key stands there
twice. -/
theorem lookup?_eq_some_iff (htext : ∀ e ∈ entries, ∃ s, e.1 = .text s)
    (hnodup : (entries.map Prod.fst).Nodup) :
    lookup? key entries = some v ↔ (.text key, v) ∈ entries := by
  refine ⟨mem_of_lookup?, fun h => ?_⟩
  induction entries with
  | nil => cases h
  | cons e rest ih =>
    obtain ⟨k, w⟩ := e
    obtain ⟨⟨s, hs⟩, hrest⟩ := List.forall_mem_cons.mp htext
    obtain rfl : k = .text s := hs
    rw [List.map_cons, List.nodup_cons] at hnodup
    rw [lookup?]
    rcases List.mem_cons.mp h with heq | hmem
    · obtain ⟨hkey, rfl⟩ := Prod.mk.inj heq
      exact if_pos (Value.text.inj hkey).symm
    · -- the key stands there only once
      have hne : s ≠ key := by
        rintro rfl
        exact hnodup.1 (List.mem_map.mpr ⟨_, hmem, rfl⟩)
      rw [if_neg hne]
      exact ih hrest hnodup.2 hmem

end Value

namespace Settings

variable {entries : Entries}

/-- The recognised members stand under their keys, in the order of these. -/
theorem sublist_recognised (entries : Entries) :
    ((recognised entries).map Prod.fst).Sublist (keys.map .text) := by
  unfold recognised
  induction keys with
  | nil => exact List.Sublist.refl []
  | cons key rest ih =>
    rw [List.filterMap_cons]
    cases Value.lookup? key entries with
    | none => exact ih.cons _
    | some v => exact ih.cons_cons _

/-- **The recognised members** are the entries under recognised keys. -/
theorem mem_recognised_iff (htext : ∀ e ∈ entries, ∃ s, e.1 = .text s)
    (hnodup : (entries.map Prod.fst).Nodup) (e : Value × Value) :
    e ∈ recognised entries ↔ e ∈ entries ∧ e.1 ∈ keys.map .text := by
  unfold recognised
  simp only [List.mem_filterMap, Option.map_eq_some_iff,
    Value.lookup?_eq_some_iff htext hnodup, List.mem_map]
  constructor
  · rintro ⟨key, hkey, v, hv, rfl⟩
    exact ⟨hv, key, hkey, rfl⟩
  · rintro ⟨he, key, hkey, hname⟩
    exact ⟨key, hkey, e.2, by rwa [hname], by rw [hname]⟩

/-- **The recognised members of a dictionary come back from its JSON text.** If the tree of the
dictionary is made of what JSON has forms for, so that no container stands inside itself, the
dictionary has a JSON text. It is an object rather than a path, and loading it gives the same
entries in whatever files there are: those of the dictionary that stand under recognised keys, in
the order of these keys, each with its value as it was. -/
theorem load_render (σ : Store) (entries : Entries)
    (h : Json.Plain (σ.expand (.dict entries))) :
    ∃ s loaded, Json.render σ entries = .ok s ∧ isLiteral s = true ∧
      (∀ tree, textOf tree s = .ok s ∧ load tree s = .ok loaded) ∧
      (loaded.map Prod.fst).Sublist (keys.map .text) ∧
      ∀ e, e ∈ loaded ↔ e ∈ σ.expandEntries entries ∧ e.1 ∈ keys.map .text := by
  have htree : σ.expand (.dict entries) = .dict (σ.expandEntries entries) := rfl
  rw [htree] at h
  obtain ⟨htext, hnodup⟩ := (Json.plain_iff_members.mp h).1
  obtain ⟨s, -, hwrite, -⟩ := Json.exists_render .empty h
  have hliteral := isLiteral_of_write hwrite
  refine ⟨s, recognised (σ.expandEntries entries), hwrite, hliteral, ?_,
    sublist_recognised _, mem_recognised_iff htext hnodup⟩
  intro tree
  constructor
  · rw [textOf, if_pos hliteral, strip_of_write hwrite]
  · exact load_of_write h hwrite (Or.inl rfl)

/-- Members in another order beside one that is not recognised, a list that stands in two places,
a truth value beside a number, and characters that JSON escapes. -/
theorem load_render_shared :
    let σ : Store := ⟨[.list [.bool true, .int 1, .text "a\\\"\n\t\r é😀".toList, .list [], .dict []]]⟩
    let nested : Value := .dict
      [(.text "z".toList, .none), (.text "a".toList, .shared .list 0), (.text [], .int (-5))]
    let entries : Entries := [(.text "format".toList, nested), (.text "other".toList, .int 0),
      (.text "show".toList, .shared .list 0)]
    ∃ s loaded, Json.render σ entries = .ok s ∧ isLiteral s = true ∧
      (∀ tree, textOf tree s = .ok s ∧ load tree s = .ok loaded) ∧
      (loaded.map Prod.fst).Sublist (keys.map .text) ∧
      ∀ e, e ∈ loaded ↔ e ∈ σ.expandEntries entries ∧ e.1 ∈ keys.map .text := by
  intro σ nested entries
  have hcell : Json.Plain (.list [.bool true, .int 1, .text "a\\\"\n\t\r é😀".toList, .list [],
      .dict []]) := by
    apply Json.plain_list
    simp only [List.forall_mem_cons, List.not_mem_nil, false_imp_iff, implies_true, and_true]
    exact ⟨Json.plain_bool true, Json.plain_int (by decide), Json.plain_text _,
      Json.plain_list nofun, Json.plain_dict [] rfl List.nodup_nil nofun⟩
  have hnested : Json.Plain (σ.expand nested) := by
    apply Json.plain_dict ["z".toList, "a".toList, []] rfl (by decide)
    exact List.forall_mem_cons.mpr ⟨Json.plain_none, List.forall_mem_cons.mpr ⟨hcell,
      List.forall_mem_cons.mpr ⟨Json.plain_int (by decide), nofun⟩⟩⟩
  apply load_render
  apply Json.plain_dict ["format".toList, "other".toList, "show".toList] rfl (by decide)
  exact List.forall_mem_cons.mpr ⟨hnested, List.forall_mem_cons.mpr ⟨Json.plain_int (by decide),
    List.forall_mem_cons.mpr ⟨hcell, nofun⟩⟩⟩

end Settings

end Marginalia
