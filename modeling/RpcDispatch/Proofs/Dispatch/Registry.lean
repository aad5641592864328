import RpcDispatch.Entrypoint.Registry
import RpcDispatch.Proofs.Exchange.Visible
import RpcDispatch.Proofs.Text.Order
import Mathlib.Data.String.Basic

/-
This file says in which order the registry keeps and updates its entrypoints.  Whatever the order in
which they were registered, each has its place by its method.
-/

namespace RpcDispatch.Registry

open Exchange (Shows Hides)

variable {σ : Type} {registry later : Registry σ} {entrypoint : Entrypoint σ}
  {entrypoints : List (Entrypoint σ)}

/-- Entrypoints in the order of their methods, which are distinct. -/
def IsSorted (entrypoints : List (Entrypoint σ)) : Prop :=
  (entrypoints.map (·.method)).Pairwise (· < ·)

/-! ### Registering -/

/-- Sorting an entrypoint in only adds it. -/
theorem insertSorted_perm (entrypoint : Entrypoint σ) (entrypoints : List (Entrypoint σ)) :
    (insertSorted entrypoint entrypoints).Perm (entrypoint :: entrypoints) := by
  induction entrypoints with
  | nil => exact .refl _
  | cons other rest ih =>
      unfold insertSorted
      split_ifs
      · exact .refl _
      · exact (ih.cons other).trans (.swap entrypoint other rest)

/-- An entrypoint with a new method keeps the others sorted. -/
theorem insertSorted_sorted (sorted : IsSorted entrypoints)
    (new : ∀ other ∈ entrypoints, other.method ≠ entrypoint.method) :
    IsSorted (insertSorted entrypoint entrypoints) := by
  induction entrypoints with
  | nil => simp [insertSorted, IsSorted]
  | cons other rest ih =>
      obtain ⟨first, sorted⟩ := List.pairwise_cons.mp sorted
      unfold insertSorted
      split_ifs with before
      · refine List.pairwise_cons.mpr ⟨?_, List.pairwise_cons.mpr ⟨first, sorted⟩⟩
        rintro method (_ | ⟨_, member⟩)
        · exact before
        · exact before.trans (first method member)
      · have behind : other.method < entrypoint.method :=
          lt_of_le_of_ne (not_lt.mp before) (new other List.mem_cons_self)
        refine List.pairwise_cons.mpr
          ⟨?_, ih sorted fun later member => new later (List.mem_cons_of_mem _ member)⟩
        intro method member
        have listed : method ∈ (entrypoint :: rest).map (·.method) :=
          ((insertSorted_perm entrypoint rest).map _).mem_iff.mp member
        rcases List.mem_cons.mp listed with rfl | listed
        · exact behind
        · exact first method listed

/-- Registering puts an entrypoint with a new method in its place. -/
theorem add_eq_ok (added : registry.add entrypoint = .ok later) :
    later.entrypoints = insertSorted entrypoint registry.entrypoints ∧
      ∀ other ∈ registry.entrypoints, other.method ≠ entrypoint.method := by
  unfold add at added
  dsimp only at added
  split_ifs at added with empty reserved known
  cases added
  refine ⟨rfl, fun other member same => known ?_⟩
  rw [find?, List.find?_isSome]
  exact ⟨other, member, by simpa using same⟩

/-- Registers entrypoints one after another. -/
def addAll (registry : Registry σ) (entrypoints : List (Entrypoint σ)) :
    Except RegistryFault (Registry σ) :=
  entrypoints.foldlM add registry

/-- A registry has all entrypoints that were registered, sorted by their methods. -/
theorem addAll_eq_ok (added : registry.addAll entrypoints = .ok later)
    (sorted : IsSorted registry.entrypoints) :
    later.entrypoints.Perm (registry.entrypoints ++ entrypoints) ∧
      IsSorted later.entrypoints := by
  induction entrypoints generalizing registry with
  | nil =>
      cases added
      rw [List.append_nil]
      exact ⟨.refl _, sorted⟩
  | cons entrypoint rest ih =>
      rw [addAll, List.foldlM_cons] at added
      cases first : registry.add entrypoint with
      | error fault =>
          rw [first] at added
          cases added
      | ok next =>
          rw [first] at added
          obtain ⟨placed, new⟩ := add_eq_ok first
          obtain ⟨perm, whole⟩ := ih added (placed ▸ insertSorted_sorted sorted new)
          refine ⟨perm.trans ?_, whole⟩
          rw [placed]
          exact ((insertSorted_perm entrypoint _).append_right rest).trans List.perm_middle.symm

/-! ### Offering -/

/-- Why a registry refuses an entrypoint.  The reasons are looked for in this order. -/
inductive Refuses (registry : Registry σ) (entrypoint : Entrypoint σ) : RegistryFault → Prop where
  | empty (unnamed : entrypoint.method = "") : Refuses registry entrypoint .emptyMethod
  | reserved (named : entrypoint.method ≠ "") (listed : entrypoint.method ∈ registry.reserved) :
      Refuses registry entrypoint (.reserved entrypoint.method)
  | duplicate (named : entrypoint.method ≠ "") (free : entrypoint.method ∉ registry.reserved)
      (known : entrypoint.method ∈ registry.methods) :
      Refuses registry entrypoint (.duplicate entrypoint.method)

/-- The registry after an entrypoint with a name that is free. -/
def insert (registry : Registry σ) (entrypoint : Entrypoint σ) : Registry σ :=
  { registry with entrypoints := insertSorted entrypoint registry.entrypoints }

/-- An entrypoint is found for the methods of the registry, and for no other. -/
theorem find?_isSome {method : String} :
    (registry.find? method).isSome = true ↔ method ∈ registry.methods := by
  simp [find?, methods]

/-- An entrypoint is refused for one of the reasons, or it gets its place. -/
theorem add_cases (registry : Registry σ) (entrypoint : Entrypoint σ) :
    (∃ fault, registry.add entrypoint = .error fault ∧ registry.Refuses entrypoint fault) ∨
      (entrypoint.method ≠ "" ∧ entrypoint.method ∉ registry.reserved ∧
        entrypoint.method ∉ registry.methods ∧
        registry.add entrypoint = .ok (registry.insert entrypoint)) := by
  unfold add
  dsimp only
  split_ifs with empty reserved known
  · exact .inl ⟨_, rfl, .empty (by simpa using empty)⟩
  · exact .inl ⟨_, rfl, .reserved (by simpa using empty) (by simpa using reserved)⟩
  · exact .inl ⟨_, rfl, .duplicate (by simpa using empty) (by simpa using reserved)
      (find?_isSome.mp known)⟩
  · exact .inr ⟨by simpa using empty, by simpa using reserved, mt find?_isSome.mpr known, rfl⟩

/-- The registry after an entrypoint was offered.  A refused one leaves it as it was. -/
def offer (registry : Registry σ) (entrypoint : Entrypoint σ) : Registry σ :=
  match registry.add entrypoint with
  | .ok later => later
  | .error _ => registry

/-- The registry after entrypoints were offered one after another. -/
def offerAll (registry : Registry σ) (offered : List (Entrypoint σ)) : Registry σ :=
  offered.foldl offer registry

/-- The entrypoints that a registry takes of those that are offered, in order. -/
def taken (registry : Registry σ) : List (Entrypoint σ) → List (Entrypoint σ)
  | [] => []
  | entrypoint :: rest =>
    match registry.add entrypoint with
    | .ok later => entrypoint :: later.taken rest
    | .error _ => registry.taken rest

/-- What holds of a registry, whatever it is offered. -/
structure Sound (registry : Registry σ) : Prop where
  sorted : IsSorted registry.entrypoints
  named : ∀ method ∈ registry.methods, method ≠ "" ∧ method ∉ registry.reserved

/-- An entrypoint that is inserted adds its method. -/
theorem mem_methods_insert {method : String} :
    method ∈ (registry.insert entrypoint).methods ↔
      method = entrypoint.method ∨ method ∈ registry.methods := by
  have listed := ((insertSorted_perm entrypoint registry.entrypoints).map
    (fun entrypoint => entrypoint.method)).mem_iff (a := method)
  simpa [methods, insert] using listed

theorem find?_cons (entrypoint : Entrypoint σ) (entrypoints : List (Entrypoint σ))
    (method : String) :
    (entrypoint :: entrypoints).find? (·.method == method) =
      if entrypoint.method = method then some entrypoint
      else entrypoints.find? (·.method == method) := by
  rw [List.find?_cons]
  by_cases same : entrypoint.method = method
  · rw [if_pos same, beq_iff_eq.mpr same]
  · rw [if_neg same, beq_eq_false_iff_ne.mpr same]

/-- An entrypoint with a name that is free is found under it. -/
theorem find?_insert (free : entrypoint.method ∉ registry.methods) (method : String) :
    (registry.insert entrypoint).find? method =
      if entrypoint.method = method then some entrypoint else registry.find? method := by
  have apart : ∀ other ∈ registry.entrypoints, other.method ≠ entrypoint.method := by
    intro other member same
    exact free (same ▸ List.mem_map_of_mem member)
  simp only [find?, insert]
  clear free
  generalize registry.entrypoints = entrypoints at apart ⊢
  induction entrypoints with
  | nil => rw [insertSorted, find?_cons]
  | cons other rest ih =>
      obtain ⟨different, later⟩ := List.forall_mem_cons.mp apart
      rw [insertSorted]
      split_ifs with before same same
      · rw [find?_cons, if_pos same]
      · rw [find?_cons, if_neg same]
      · rw [find?_cons, if_neg (same ▸ different), ih later, if_pos same]
      · rw [find?_cons, find?_cons, ih later, if_neg same]

/-- A registry without entrypoints is sound. -/
theorem sound_empty (reserved : List String) : (empty reserved : Registry σ).Sound :=
  ⟨.nil, nofun⟩

/-- An offer keeps the registry sound and the reserved methods. -/
theorem Sound.offer (sound : registry.Sound) (entrypoint : Entrypoint σ) :
    (registry.offer entrypoint).Sound ∧
      (registry.offer entrypoint).reserved = registry.reserved := by
  rcases registry.add_cases entrypoint with ⟨fault, refused, _⟩ | ⟨named, free, new, added⟩
  · rw [Registry.offer, refused]
    exact ⟨sound, rfl⟩
  · rw [Registry.offer, added]
    refine ⟨⟨insertSorted_sorted sound.sorted ?_, ?_⟩, rfl⟩
    · intro other member same
      exact new (same ▸ List.mem_map_of_mem member)
    · intro method member
      rcases mem_methods_insert.mp member with rfl | member
      · exact ⟨named, free⟩
      · exact sound.named method member

/-- Offers keep the registry sound and the reserved methods. -/
theorem Sound.offerAll (sound : registry.Sound) (offered : List (Entrypoint σ)) :
    (registry.offerAll offered).Sound ∧
      (registry.offerAll offered).reserved = registry.reserved := by
  induction offered generalizing registry with
  | nil => exact ⟨sound, rfl⟩
  | cons entrypoint rest ih =>
      obtain ⟨next, reserved⟩ := sound.offer entrypoint
      obtain ⟨last, kept⟩ := ih next
      exact ⟨last, kept.trans reserved⟩

/-- What is found is the first entrypoint that was taken with the name. -/
theorem find?_offerAll (offered : List (Entrypoint σ)) (method : String) :
    (registry.offerAll offered).find? method =
      (registry.find? method).or ((registry.taken offered).find? (·.method == method)) := by
  induction offered generalizing registry with
  | nil => simp [offerAll, taken]
  | cons entrypoint rest ih =>
      have next : registry.offerAll (entrypoint :: rest) =
          (registry.offer entrypoint).offerAll rest := rfl
      rw [next, ih, taken, Registry.offer]
      rcases registry.add_cases entrypoint with ⟨fault, refused, _⟩ | ⟨named, free, new, added⟩
      · rw [refused]
      · rw [added]
        dsimp only
        rw [find?_insert new, find?_cons]
        split_ifs with same
        · have absent : registry.find? method = none := by
            rw [← Option.not_isSome_iff_eq_none, find?_isSome, ← same]
            exact new
          rw [absent, Option.some_or, Option.none_or]
        · rfl

/-- The first entrypoint that is taken with a name is the first one that is offered with it, unless
the name is empty, reserved or in use. -/
theorem find?_taken (offered : List (Entrypoint σ)) {method : String}
    (unknown : method ∉ registry.methods) :
    (registry.taken offered).find? (·.method == method) =
      if method = "" ∨ method ∈ registry.reserved then none
      else offered.find? (·.method == method) := by
  induction offered generalizing registry with
  | nil => simp [taken]
  | cons entrypoint rest ih =>
      rw [taken, find?_cons]
      rcases registry.add_cases entrypoint with ⟨fault, refused, why⟩ | ⟨named, free, new, added⟩
      · rw [refused]
        dsimp only
        rw [ih unknown]
        by_cases same : entrypoint.method = method
        · subst same
          cases why with
          | empty unnamed => rw [if_pos (.inl unnamed), if_pos (.inl unnamed)]
          | reserved named listed => rw [if_pos (.inr listed), if_pos (.inr listed)]
          | duplicate named free known => exact absurd known unknown
        · rw [if_neg same]
      · rw [added]
        dsimp only
        rw [find?_cons]
        by_cases same : entrypoint.method = method
        · subst same
          rw [if_pos rfl, if_pos rfl, if_neg (not_or.mpr ⟨named, free⟩)]
        · have other : method ∉ (registry.insert entrypoint).methods := by
            rw [mem_methods_insert, not_or]
            exact ⟨Ne.symm same, unknown⟩
          rw [if_neg same, if_neg same, ih other]
          rfl

/-- What a registry is like after entrypoints were offered to it, one after another. -/
structure Holds (reserved : List String) (offered : List (Entrypoint σ))
    (registry : Registry σ) : Prop where
  refused : ∀ entrypoint fault,
    registry.add entrypoint = .error fault ↔ registry.Refuses entrypoint fault
  kept : ∀ entrypoint fault, registry.Refuses entrypoint fault →
    registry.offer entrypoint = registry
  increasing : Text.Increasing registry.methods
  distinct : registry.methods.Nodup
  named : ∀ method ∈ registry.methods, method ≠ "" ∧ method ∉ reserved
  first : ∀ method, registry.find? method =
    ((empty reserved).taken offered).find? (·.method == method)
  known : ∀ method, registry.find? method =
    if method = "" ∨ method ∈ reserved then none else offered.find? (·.method == method)

/-- Adding is refused for exactly one reason. -/
theorem add_eq_error {fault : RegistryFault} :
    registry.add entrypoint = .error fault ↔ registry.Refuses entrypoint fault := by
  constructor
  · intro refused
    rcases registry.add_cases entrypoint with ⟨other, same, why⟩ | ⟨_, _, _, added⟩
    · rw [same] at refused
      cases refused
      exact why
    · rw [added] at refused
      cases refused
  · intro why
    unfold add
    cases why with
    | empty unnamed => simp [unnamed]
    | reserved named listed => simp [named, listed]
    | duplicate named free known => simp [named, free, find?_isSome.mpr known]

/-- A registry holds what was offered to it and accepted. -/
theorem holds_offerAll (reserved : List String) (offered : List (Entrypoint σ)) :
    Holds reserved offered ((empty reserved).offerAll offered) := by
  obtain ⟨sound, same⟩ := (sound_empty reserved).offerAll offered
  have first (method : String) : ((empty reserved).offerAll offered).find? method =
      ((empty reserved).taken offered).find? (·.method == method) := by
    rw [find?_offerAll]
    rfl
  constructor
  · exact fun _ _ => add_eq_error
  · intro entrypoint fault why
    rw [offer, add_eq_error.mpr why]
  · exact Text.increasing_of_lt sound.sorted
  · exact sound.sorted.imp ne_of_lt
  · intro method member
    have named := sound.named method member
    rwa [same] at named
  · exact first
  · intro method
    rw [first, find?_taken offered (by simp [methods, empty])]
    rfl

/-- An entrypoint of a registry is found under its method. -/
theorem Sound.find?_eq_some (sound : registry.Sound) (member : entrypoint ∈ registry.entrypoints) :
    registry.find? entrypoint.method = some entrypoint := by
  have sorted := sound.sorted
  rw [find?]
  generalize registry.entrypoints = entrypoints at member sorted
  clear sound
  induction entrypoints with
  | nil => cases member
  | cons first rest ih =>
      obtain ⟨least, sorted⟩ := List.pairwise_cons.mp sorted
      rw [find?_cons]
      rcases List.mem_cons.mp member with rfl | later
      · rw [if_pos rfl]
      · have less := least entrypoint.method (List.mem_map_of_mem later)
        rw [if_neg (ne_of_lt less), ih later sorted]

/-! ### Updating -/

/-- The calls of the update hooks, in the order of the registry. -/
def updates (registry : Registry σ) : List Visible :=
  registry.entrypoints.map fun entrypoint => .call entrypoint.method .update

/-- An update of the registry shows the call of each hook once. -/
theorem update_shows (registry : Registry σ) (exchange : Exchange σ)
    (own : ∀ entrypoint ∈ registry.entrypoints, entrypoint.AnswersOwn)
    (silent : exchange.OthersSilent) :
    Shows noKey exchange (registry.update exchange) registry.updates := by
  unfold Registry.update updates
  generalize registry.entrypoints = entrypoints at own ⊢
  induction entrypoints generalizing exchange with
  | nil => exact Hides.refl exchange
  | cons entrypoint rest ih =>
      have first : Shows noKey exchange (exchange.callUpdate entrypoint)
          [.call entrypoint.method .update] :=
        (Exchange.shows_called exchange _ _).then
          (Script.run_hides _ _ (own entrypoint List.mem_cons_self).onUpdate silent)
      exact first.trans (ih _ (first.silent silent)
        fun later member => own later (List.mem_cons_of_mem _ member))

end RpcDispatch.Registry
