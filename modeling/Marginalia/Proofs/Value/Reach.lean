import Mathlib.Data.List.Range
import Mathlib.Data.List.Perm.Subperm
import Marginalia.Proofs.Value.Parts

/-!
# What a value reaches

A value reaches its parts and whatever the references among them lead to. The tree of a value shows
all that the value reaches, although a container inside itself is cut off there: what the container
holds is shown further up.

## Main definitions

* `Store.Meets`: what is met without entering some containers
* `Store.Reaches`: what a value reaches
* `Store.IsCyclic`: containers that stand inside themselves

## Main results

* `Store.meets_cons`: a container is entered once at most
* `Store.isCyclic_of_within_expand`: what references are left in the tree of a value
* `Store.speakable_expand_iff`: the tree of a value is speakable exactly when everything is that the
  value reaches
-/

namespace Marginalia

namespace Store

variable {σ : Store} {path : List Nat} {u v w : Value}

/-- A value is met from another one without entering the containers of `path`. -/
inductive Meets (σ : Store) (path : List Nat) (w : Value) : Value → Prop
  /-- A part is met. -/
  | within {v : Value} (h : w.Within v) : Meets σ path w v
  /-- What is met from a container is met where a reference leads to it. -/
  | enter {v u : Value} {kind : Kind} {address : Nat} (h : (Value.shared kind address).Within v)
    (hpath : address ∉ path) (hu : σ.get? address = some u) (hw : Meets σ path w u) :
    Meets σ path w v

/-- A value reaches another one through members, keys and references. -/
def Reaches (σ : Store) (v w : Value) : Prop := σ.Meets [] w v

theorem Meets.mono {more : List Nat} (h : σ.Meets more w v) (hsub : path ⊆ more) :
    σ.Meets path w v := by
  induction h with
  | within h => exact .within h
  | enter h hpath hu _ ih => exact .enter h (fun hmem => hpath (hsub hmem)) hu ih

theorem Meets.member {path : List Nat} (h : σ.Meets path w u) (hu : u ∈ v.members) :
    σ.Meets path w v := by
  cases h with
  | within h => exact .within (.member hu h)
  | enter h hpath hget hw => exact .enter (.member hu h) hpath hget hw

/-- What members and the contents of references inherit holds of everything that is reached. -/
theorem Reaches.closed {p : Value → Prop} (hmembers : ∀ v, p v → ∀ u ∈ v.members, p u)
    (hcells : ∀ kind address u, p (.shared kind address) → σ.get? address = some u → p u)
    (h : σ.Reaches v w) (hv : p v) : p w := by
  have hwithin : ∀ {v w : Value}, w.Within v → p v → p w := fun hw => by
    induction hw with
    | self => exact id
    | member hu _ ih => exact fun hv => ih (hmembers _ hv _ hu)
  induction h with
  | within hw => exact hwithin hw hv
  | enter href _ hu _ ih => exact ih (hcells _ _ _ (hwithin href hv) hu)

/-- **A container is entered once at most**: what is met by entering it is met from what it holds
without entering it again. -/
theorem meets_cons {address : Nat} (hu : σ.get? address = some u) (h : σ.Meets path w v) :
    σ.Meets (address :: path) w v ∨ σ.Meets (address :: path) w u := by
  induction h with
  | within h => exact Or.inl (.within h)
  | @enter v u' kind other h hpath hu' _ ih =>
    by_cases ho : other = address
    · obtain rfl : u' = u := Option.some.inj ((ho ▸ hu').symm.trans hu)
      exact Or.inr (ih.elim id id)
    · exact ih.imp_left (.enter h (by simp [ho, hpath]) hu')

/-- A path of different containers is no longer than the store. -/
theorem length_le_of_nodup (hnodup : path.Nodup) (h : ∀ a ∈ path, a < σ.cells.length) :
    path.length ≤ σ.cells.length := by
  have hsub : path ⊆ List.range σ.cells.length := fun a ha => List.mem_range.mpr (h a ha)
  simpa using (hnodup.subperm hsub).length_le

theorem lt_length_of_get? {address : Nat} (hu : σ.get? address = some u) :
    address < σ.cells.length := (List.getElem?_eq_some_iff.mp hu).1

/-- What is unfolded inside the containers of a path is speakable exactly when everything is that is
met without entering them. The fuel lasts as long as containers are left. -/
theorem speakable_graft_unfold_iff {fuel : Nat} (hnodup : path.Nodup)
    (hvalid : ∀ a ∈ path, a < σ.cells.length) (hfuel : σ.cells.length ≤ fuel + path.length)
    (v : Value) : (v.graft (σ.unfold fuel path)).speakable = true ↔
      ∀ w : Value, σ.Meets path w v → w.speaks = true := by
  induction fuel generalizing path v with
  | zero =>
    rw [Value.speakable_graft_iff, Value.speakable_iff]
    constructor
    · rintro ⟨hv, -⟩ w (h | ⟨-, hpath, hu, -⟩)
      · exact hv w h
      · -- the path would be too long if it went on
        have hlen := length_le_of_nodup (List.nodup_cons.mpr ⟨hpath, hnodup⟩)
          (List.forall_mem_cons.mpr ⟨lt_length_of_get? hu, hvalid⟩)
        rw [List.length_cons] at hlen
        omega
    · exact fun h => ⟨fun w hw => h w (.within hw), fun _ _ _ => rfl⟩
  | succ fuel ih =>
    -- inside a container the path is longer by its address
    have hstep : ∀ {address : Nat} {u : Value}, address ∉ path → σ.get? address = some u →
        ((u.graft (σ.unfold fuel (address :: path))).speakable = true ↔
          ∀ w : Value, σ.Meets (address :: path) w u → w.speaks = true) := by
      intro address u hpath hu
      refine ih (List.nodup_cons.mpr ⟨hpath, hnodup⟩)
        (List.forall_mem_cons.mpr ⟨lt_length_of_get? hu, hvalid⟩) ?_ u
      rw [List.length_cons]
      omega
    -- what is met is a part of the value or is met behind one of its references
    rw [Value.speakable_graft_iff, Value.speakable_iff]
    constructor
    · rintro ⟨hv, hrefs⟩ w (h | @⟨_, u, kind, address, h, hpath, hu, hw⟩)
      · exact hv w h
      · have hspeakable := hrefs kind address h
        rw [unfold, if_neg (by simpa using hpath), hu] at hspeakable
        exact (hstep hpath hu).mp hspeakable w ((meets_cons hu hw).elim id id)
    · refine fun h => ⟨fun w hw => h w (.within hw), fun kind address href => ?_⟩
      rw [unfold]
      split
      · rfl
      · next hpath =>
        split
        · next u hu =>
          have hpath : address ∉ path := by simpa using hpath
          exact (hstep hpath hu).mpr fun w hw =>
            h w (.enter href hpath hu (hw.mono (List.subset_cons_self address path)))
        · rfl

/-- **The tree of a value is speakable exactly when everything is that the value reaches.** -/
theorem speakable_expand_iff (σ : Store) (v : Value) : (σ.expand v).speakable = true ↔
    ∀ w : Value, σ.Reaches v w → w.speaks = true :=
  speakable_graft_unfold_iff List.nodup_nil nofun (Nat.le_refl _) v

/-! ## References that are left -/

theorem reaches_of_within (hu : u.Within v) (h : σ.Reaches u w) : σ.Reaches v w := by
  induction hu with
  | self => exact h
  | member hmem _ ih => exact ih.member hmem

theorem Reaches.trans (h : σ.Reaches v u) (h' : σ.Reaches u w) : σ.Reaches v w := by
  induction h with
  | within hu => exact reaches_of_within hu h'
  | enter href hpath hget _ ih => exact .enter href hpath hget ih

/-- A container stands inside itself. -/
def IsCyclic (σ : Store) (address : Nat) : Prop :=
  ∃ u kind, σ.get? address = some u ∧ σ.Reaches u (.shared kind address)

/-- A container of the path that has been taken to a reference stands inside itself. -/
theorem isCyclic_of_mem_path (hpath : ∀ a ∈ path, ∃ u, σ.get? a = some u ∧ σ.Reaches u v)
    {kind : Kind} {address : Nat} (hmem : address ∈ path)
    (href : (Value.shared kind address).Within v) : σ.IsCyclic address := by
  obtain ⟨u, hu, hreach⟩ := hpath address hmem
  exact ⟨u, kind, hu, hreach.trans (.within href)⟩

/-- Inside the containers of a path, which all lead to the value, a reference is left only where a
container stands inside itself or is missing. -/
theorem isCyclic_of_within_unfold {fuel : Nat} (hnodup : path.Nodup)
    (hvalid : ∀ a ∈ path, a < σ.cells.length) (hfuel : σ.cells.length ≤ fuel + path.length)
    (hpath : ∀ a ∈ path, ∃ u, σ.get? a = some u ∧ σ.Reaches u v) {kind : Kind} {address : Nat}
    (h : (Value.shared kind address).Within (v.graft (σ.unfold fuel path))) :
    σ.get? address = none ∨ σ.IsCyclic address := by
  induction fuel generalizing path v with
  | zero =>
    obtain ⟨kind', other, href, hw⟩ := Value.exists_shared_of_within_graft h
    obtain ⟨rfl, rfl⟩ := Value.shared.inj (Value.eq_of_within_shared hw)
    by_cases hmem : address ∈ path
    · exact Or.inr (isCyclic_of_mem_path hpath hmem href)
    · left
      cases hget : σ.get? address with
      | none => rfl
      | some u =>
        -- the path would be too long if it went on
        have hlen := length_le_of_nodup (List.nodup_cons.mpr ⟨hmem, hnodup⟩)
          (List.forall_mem_cons.mpr ⟨lt_length_of_get? hget, hvalid⟩)
        rw [List.length_cons] at hlen
        omega
  | succ fuel ih =>
    obtain ⟨kind', other, href, hw⟩ := Value.exists_shared_of_within_graft h
    rw [unfold] at hw
    split at hw
    · next hmem =>
      obtain ⟨rfl, rfl⟩ := Value.shared.inj (Value.eq_of_within_shared hw)
      exact Or.inr (isCyclic_of_mem_path hpath (by simpa using hmem) href)
    next hmem =>
    have hmem : other ∉ path := by simpa using hmem
    split at hw
    · next u hget =>
      refine ih (List.nodup_cons.mpr ⟨hmem, hnodup⟩)
        (List.forall_mem_cons.mpr ⟨lt_length_of_get? hget, hvalid⟩) ?_ ?_ hw
      · rw [List.length_cons]
        omega
      · -- whatever leads to the value leads on into the container
        refine List.forall_mem_cons.mpr ⟨⟨u, hget, .within .self⟩, fun a ha => ?_⟩
        obtain ⟨t, ht, hreach⟩ := hpath a ha
        exact ⟨t, ht, hreach.trans (.enter href nofun hget (.within .self))⟩
    · next hget =>
      obtain ⟨rfl, rfl⟩ := Value.shared.inj (Value.eq_of_within_shared hw)
      exact Or.inl hget

/-- **A reference is left in the tree of a value** only where a container stands inside itself or is
missing. -/
theorem isCyclic_of_within_expand {kind : Kind} {address : Nat}
    (h : (Value.shared kind address).Within (σ.expand v)) :
    σ.get? address = none ∨ σ.IsCyclic address :=
  isCyclic_of_within_unfold List.nodup_nil nofun (Nat.le_refl _) nofun h

end Store

end Marginalia
