import Marginalia.Render.Shape

/-!
# The parts of a value

What stands inside a value, apart from what its references lead to. A property of values is proved
by induction on members, and whether a value can be spelled is a matter of its parts.

## Main definitions

* `Foreign.IsBroken`: objects that cannot be described
* `Value.members`: what a container holds, keys included
* `Value.Within`: the parts of a value
* `Value.speaks`: whether a part by itself can be spelled

## Main results

* `Value.induction`: induction over values, with a hypothesis for each member
* `Value.speakable_iff`: a value is speakable exactly when its parts are
* `Value.exists_shared_of_within_graft`: a reference that is left stands in the place of one
* `Value.speakable_graft_iff`: replacing references concerns the references only
-/

namespace Marginalia

/-- An object that cannot be described. -/
def Foreign.IsBroken (o : Foreign) : Prop := ∃ message, o.description = .fails message

namespace Value

/-- What a container holds, keys included. -/
def members : Value → List Value
  | .list items => items
  | .tuple items => items
  | .set items => items
  | .dict entries => entries.flatMap fun e => [e.1, e.2]
  | _ => []

/-- The value stands for a container of the store. -/
def IsReference : Value → Prop
  | .shared _ _ => True
  | _ => False

theorem ne_shared_of_not_isReference {v : Value} (h : ¬ v.IsReference) (kind : Kind)
    (address : Nat) : v ≠ .shared kind address := by
  rintro rfl
  exact h trivial

theorem forall_mem_members_dict {p : Value → Prop} {entries : Entries} :
    (∀ v ∈ members (.dict entries), p v) ↔ ∀ e ∈ entries, p e.1 ∧ p e.2 := by
  unfold members
  rw [List.forall_mem_flatMap]
  simp

section Induction

variable {motive : Value → Prop}

mutual

/-- **Induction over values**: from the members of a container to the container. -/
theorem induction (h : ∀ v : Value, (∀ u ∈ v.members, motive u) → motive v) :
    ∀ v : Value, motive v
  | .list items => h _ (induction_items h items)
  | .tuple items => h _ (induction_items h items)
  | .set items => h _ (induction_items h items)
  | .dict entries => h _ (forall_mem_members_dict.mpr (induction_entries h entries))
  | .none => h _ nofun
  | .bool _ => h _ nofun
  | .int _ => h _ nofun
  | .float _ => h _ nofun
  | .text _ => h _ nofun
  | .bytes _ => h _ nofun
  | .foreign _ => h _ nofun
  | .shared _ _ => h _ nofun

theorem induction_items (h : ∀ v : Value, (∀ u ∈ v.members, motive u) → motive v) :
    ∀ items : List Value, ∀ v ∈ items, motive v
  | [] => nofun
  | v :: vs => List.forall_mem_cons.mpr ⟨induction h v, induction_items h vs⟩

theorem induction_entries (h : ∀ v : Value, (∀ u ∈ v.members, motive u) → motive v) :
    ∀ entries : Entries, ∀ e ∈ entries, motive e.1 ∧ motive e.2
  | [] => nofun
  | (k, v) :: rest =>
    List.forall_mem_cons.mpr ⟨⟨induction h k, induction h v⟩, induction_entries h rest⟩

end

end Induction

/-- The first value is the second one or a part of it; what a reference leads to is no part. -/
inductive Within (w : Value) : Value → Prop
  | self : Within w w
  | member {u v : Value} (h : v ∈ u.members) (hw : Within w v) : Within w u

/-- What holds of the parts of a value holds of the value and of the parts of its members. -/
theorem forall_within_iff {p : Value → Prop} {v : Value} :
    (∀ w : Value, w.Within v → p w) ↔ p v ∧ ∀ u ∈ v.members, ∀ w : Value, w.Within u → p w := by
  constructor
  · exact fun h => ⟨h v .self, fun u hu w hw => h w (.member hu hw)⟩
  · rintro ⟨hself, hmembers⟩ w (_ | ⟨hu, hw⟩)
    · exact hself
    · exact hmembers _ hu w hw

/-- A reference has no parts but itself. -/
theorem eq_of_within_shared {w : Value} {kind : Kind} {address : Nat}
    (h : w.Within (.shared kind address)) : w = .shared kind address := by
  cases h with
  | self => rfl
  | member hu _ => cases hu

/-! ## Spelling -/

/-- Whether a part by itself can be spelled. -/
def speaks : Value → Bool
  | .int i => !Digits.tooLong i
  | .foreign o => match o.description with
    | .shown _ => true
    | .fails _ => false
  | _ => true

theorem speaks_foreign {o : Foreign} :
    (foreign o).speaks = true ↔ ¬ o.IsBroken := by
  unfold speaks Foreign.IsBroken
  cases h : o.description <;> simp [h]

theorem speakableAll_iff {items : List Value} :
    speakableAll items = true ↔ ∀ v ∈ items, v.speakable = true := by
  induction items with
  | nil => simp [speakableAll]
  | cons v vs ih => simp [speakableAll, ih]

theorem speakableEntries_iff {entries : Entries} : speakableEntries entries = true ↔
    ∀ e ∈ entries, e.1.speakable = true ∧ e.2.speakable = true := by
  induction entries with
  | nil => simp [speakableEntries]
  | cons e rest ih => simp [speakableEntries, ih]

/-- A value is speakable exactly when it speaks by itself and its members are speakable. -/
theorem speakable_iff_members {v : Value} :
    v.speakable = true ↔ v.speaks = true ∧ ∀ u ∈ v.members, u.speakable = true := by
  cases v with
  | list items => simp [speakable, speaks, members, speakableAll_iff]
  | tuple items => simp [speakable, speaks, members, speakableAll_iff]
  | set items => simp [speakable, speaks, members, speakableAll_iff]
  | dict entries =>
    rw [forall_mem_members_dict]
    simp [speakable, speaks, speakableEntries_iff]
  | foreign o => cases h : o.description <;> simp [speakable, speaks, members, h]
  | _ => simp [speakable, speaks, members]

/-- **A value is speakable exactly when its parts are.** -/
theorem speakable_iff (v : Value) :
    v.speakable = true ↔ ∀ w : Value, w.Within v → w.speaks = true := by
  induction v using induction with
  | h v ih =>
    rw [speakable_iff_members, forall_within_iff]
    exact and_congr_right fun _ => forall₂_congr ih

/-! ## Values without references -/

theorem plainAll_iff {items : List Value} :
    plainAll items = true ↔ ∀ v ∈ items, v.plain = true := by
  induction items with
  | nil => simp [plainAll]
  | cons v vs ih => simp [plainAll, ih]

theorem plainEntries_iff {entries : Entries} : plainEntries entries = true ↔
    ∀ e ∈ entries, e.1.plain = true ∧ e.2.plain = true := by
  induction entries with
  | nil => simp [plainEntries]
  | cons e rest ih => simp [plainEntries, ih]

/-! ## Replacing references -/

theorem graftAll_eq_map (f : Kind → Nat → Value) (items : List Value) :
    graftAll f items = items.map (graft f) := by
  induction items with
  | nil => rfl
  | cons v vs ih => rw [graftAll, ih, List.map_cons]

theorem graftEntries_eq_map (f : Kind → Nat → Value) (entries : Entries) :
    graftEntries f entries = entries.map fun e => (graft f e.1, graft f e.2) := by
  induction entries with
  | nil => rfl
  | cons e rest ih => rw [graftEntries, ih, List.map_cons]

/-- Where there is no reference, replacing goes on to the members. -/
theorem members_graft (f : Kind → Nat → Value) {v : Value} (h : ¬ v.IsReference) :
    (v.graft f).speaks = v.speaks ∧ (v.graft f).members = v.members.map (graft f) := by
  cases v with
  | shared kind address => exact absurd trivial h
  | list items => exact ⟨rfl, graftAll_eq_map f items⟩
  | tuple items => exact ⟨rfl, graftAll_eq_map f items⟩
  | set items => exact ⟨rfl, graftAll_eq_map f items⟩
  | dict entries =>
    refine ⟨rfl, ?_⟩
    simp [graft, members, graftEntries_eq_map, List.flatMap_map, List.map_flatMap]
  | _ => exact ⟨rfl, rfl⟩

/-- **No reference appears where there was none**: it stands in the place of another one. -/
theorem exists_shared_of_within_graft {f : Kind → Nat → Value} {v : Value} {kind : Kind}
    {address : Nat} (h : (Value.shared kind address).Within (v.graft f)) :
    ∃ kind' other, (Value.shared kind' other).Within v ∧
      (Value.shared kind address).Within (f kind' other) := by
  induction v using induction with
  | h v ih =>
    by_cases hv : v.IsReference
    · cases v with
      | shared kind' other => exact ⟨kind', other, .self, h⟩
      | _ => cases hv
    · generalize hw : v.graft f = w at h
      cases h with
      | self =>
        cases v with
        | shared kind' other => exact absurd trivial hv
        | _ => cases hw
      | member hmem hpart =>
        rw [← hw, (members_graft f hv).2] at hmem
        obtain ⟨u, hu, rfl⟩ := List.mem_map.mp hmem
        obtain ⟨kind', other, href, hrest⟩ := ih u hu hpart
        exact ⟨kind', other, .member hu href, hrest⟩

/-- **Replacing references concerns the references only**: the result is speakable exactly when the
value is and what stands in the place of its references. -/
theorem speakable_graft_iff (f : Kind → Nat → Value) (v : Value) : (v.graft f).speakable = true ↔
    v.speakable = true ∧
      ∀ kind address, (Value.shared kind address).Within v →
        (f kind address).speakable = true := by
  have hforall : ∀ {v : Value}, (∀ kind address, (Value.shared kind address).Within v →
      (f kind address).speakable = true) ↔ ∀ w : Value, w.Within v → ∀ kind address,
        w = .shared kind address → (f kind address).speakable = true :=
    ⟨fun h w hw kind address hs => h kind address (hs ▸ hw),
      fun h kind address hw => h _ hw kind address rfl⟩
  induction v using induction with
  | h v ih =>
    rw [hforall, forall_within_iff]
    by_cases hv : v.IsReference
    · cases v with
      | shared kind address => simp [graft, speakable, members]
      | _ => cases hv
    · have hne := ne_shared_of_not_isReference hv
      obtain ⟨hspeaks, hmembers⟩ := members_graft f hv
      rw [speakable_iff_members, hspeaks, hmembers, List.forall_mem_map, speakable_iff_members,
        forall₂_congr ih]
      simp only [hforall, forall_and, hne, false_imp_iff, implies_true, true_and, and_assoc]

end Value

end Marginalia
