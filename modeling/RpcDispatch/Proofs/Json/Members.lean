import RpcDispatch.Proofs.Json.Grammar

/-
This file says that an object keeps its members in order and the last of those with one name, and
that nothing else does.
-/

namespace RpcDispatch.Json

section

variable {α : Type}

/-- The first member is found by its name, and the others behind it. -/
theorem lookup_member (name : String) (member : String × α) (members : List (String × α)) :
    (member :: members).lookup name =
      if name = member.1 then some member.2 else members.lookup name := by
  rw [List.lookup_cons]
  by_cases same : name = member.1
  · rw [if_pos same, beq_iff_eq.mpr same]
  · rw [if_neg same, beq_eq_false_iff_ne.mpr same]

/-- A member is found under its own name, whatever was held under it. -/
theorem lookup_insertMember (name other : String) (value : α) (members : List (String × α)) :
    (insertMember name value members).lookup other =
      if other = name then some value else members.lookup other := by
  induction members with
  | nil => rw [insertMember, lookup_member]
  | cons member members ih =>
      obtain ⟨held, kept⟩ := member
      rw [insertMember]
      split
      · rw [lookup_member]
      split
      · next equal =>
          subst equal
          rw [lookup_member, lookup_member]
          split <;> rfl
      · next different =>
          rw [lookup_member, lookup_member, ih]
          by_cases same : other = held
          · subst same
            rw [if_pos rfl, if_pos rfl, if_neg (Ne.symm different)]
          · rw [if_neg same, if_neg same]

/-- An inserted member adds itself only. -/
theorem mem_insertMember {name : String} {value : α} {members : List (String × α)}
    {member : String × α} (mem : member ∈ insertMember name value members) :
    member = (name, value) ∨ member ∈ members := by
  induction members with
  | nil => simpa [insertMember] using mem
  | cons first members ih =>
      obtain ⟨held, kept⟩ := first
      rw [insertMember] at mem
      split at mem
      · simpa using mem
      split at mem
      · rcases List.mem_cons.mp mem with same | later
        · exact .inl same
        · exact .inr (.tail _ later)
      · rcases List.mem_cons.mp mem with same | later
        · exact .inr (same ▸ .head _)
        · exact (ih later).imp_right (.tail _)

theorem lt_of_not_lt {name other : String} (notLess : ¬name < other) (different : name ≠ other) :
    other < name := by
  apply Decidable.byContradiction
  intro notGreater
  exact different (String.le_antisymm notGreater notLess)

/-- Members stay in order when one is inserted. -/
theorem Sorted.insertMember {members : List (String × α)} (sorted : Sorted members)
    (name : String) (value : α) : Sorted (insertMember name value members) := by
  induction members with
  | nil => exact List.pairwise_singleton _ _
  | cons first members ih =>
      obtain ⟨held, kept⟩ := first
      obtain ⟨least, later⟩ := List.pairwise_cons.mp sorted
      rw [Json.insertMember]
      split
      · next less =>
          refine List.pairwise_cons.mpr ⟨?_, sorted⟩
          intro member mem
          rcases List.mem_cons.mp mem with rfl | mem
          · exact less
          · exact String.lt_trans less (least member mem)
      split
      · next equal =>
          subst equal
          exact List.pairwise_cons.mpr ⟨least, later⟩
      · next notLess different =>
          refine List.pairwise_cons.mpr ⟨?_, ih later⟩
          intro member mem
          rcases mem_insertMember mem with rfl | mem
          · exact lt_of_not_lt notLess different
          · exact least member mem

/-- In collected members each name has its last value. -/
theorem collects_collectMembers (pairs : List (String × α)) :
    Collects pairs (collectMembers pairs) := by
  rw [collectMembers, List.foldl_eq_foldr_reverse]
  generalize same : pairs.reverse = reversed
  suffices Sorted (reversed.foldr (fun pair members => insertMember pair.1 pair.2 members) []) ∧
      ∀ name, (reversed.foldr (fun pair members => insertMember pair.1 pair.2 members) []).lookup
        name = reversed.lookup name from ⟨this.1, fun name => by rw [this.2, same]⟩
  clear same
  induction reversed with
  | nil => exact ⟨List.Pairwise.nil, fun name => rfl⟩
  | cons pair reversed ih =>
      refine ⟨ih.1.insertMember pair.1 pair.2, fun name => ?_⟩
      rw [List.foldr_cons, lookup_insertMember, ih.2, lookup_member]

/-- Nothing is found for a name that no member has. -/
theorem lookup_eq_none {name : String} {members : List (String × α)} :
    members.lookup name = none ↔ name ∉ members.map Prod.fst := by
  rw [List.lookup_eq_none_iff, List.mem_map]
  constructor
  · rintro apart ⟨member, mem, rfl⟩
    simpa using apart member mem
  · intro absent member mem
    simpa using fun same => absent ⟨member, mem, Eq.symm same⟩

/-- Collecting keeps the names. -/
theorem Collects.mem_names {pairs members : List (String × α)} (collects : Collects pairs members)
    {name : String} : name ∈ members.map Prod.fst ↔ name ∈ pairs.map Prod.fst := by
  apply Decidable.not_iff_not.mp
  rw [← lookup_eq_none, collects.last, lookup_eq_none, List.map_reverse, List.mem_reverse]

/-- A name in front of all the others is not found. -/
theorem lookup_of_less {name : String} {members : List (String × α)}
    (less : ∀ member ∈ members, name < member.1) : members.lookup name = none := by
  rw [List.lookup_eq_none_iff]
  intro member mem
  simpa using String.ne_of_lt (less member mem)

/-- No name before the first is found. -/
theorem Sorted.not_less {name : String} {value : α} {first : String × α}
    {members : List (String × α)} (sorted : Sorted (first :: members))
    (found : (first :: members).lookup name = some value) : ¬name < first.1 := by
  intro less
  rw [lookup_of_less] at found
  · cases found
  · intro member mem
    rcases List.mem_cons.mp mem with rfl | mem
    · exact less
    · exact String.lt_trans less ((List.pairwise_cons.mp sorted).1 member mem)

/-- Members in order are determined by their values. -/
theorem Sorted.ext {members members' : List (String × α)} (sorted : Sorted members)
    (sorted' : Sorted members') (same : ∀ name, members.lookup name = members'.lookup name) :
    members = members' := by
  induction members generalizing members' with
  | nil =>
      cases members' with
      | nil => rfl
      | cons first' members' =>
          have found := same first'.1
          rw [lookup_member, if_pos rfl] at found
          cases found
  | cons first members ih =>
      obtain ⟨least, later⟩ := List.pairwise_cons.mp sorted
      have found := same first.1
      rw [lookup_member, if_pos rfl] at found
      cases members' with
      | nil => cases found
      | cons first' members' =>
          obtain ⟨least', later'⟩ := List.pairwise_cons.mp sorted'
          have found' := same first'.1
          rw [lookup_member first'.1 first', if_pos rfl] at found'
          have names : first.1 = first'.1 :=
            String.le_antisymm (sorted.not_less found') (sorted'.not_less found.symm)
          have values : first.2 = first'.2 := by
            rw [lookup_member, if_pos names] at found
            exact Option.some.inj found
          have firsts : first = first' := Prod.ext names values
          subst firsts
          rw [ih later later' fun name => ?_]
          by_cases equal : name = first.1
          · rw [equal, lookup_of_less least, lookup_of_less least']
          · have others := same name
            rwa [lookup_member, lookup_member, if_neg equal, if_neg equal] at others

/-- The members that are collected from pairs are determined by these. -/
theorem Collects.eq_collectMembers {pairs members : List (String × α)}
    (collects : Collects pairs members) : members = collectMembers pairs := by
  have collected := collects_collectMembers pairs
  apply Sorted.ext collects.sorted collected.sorted
  intro name
  rw [collects.last, collected.last]

/-- Members in order are looked up alike from both ends. -/
theorem Sorted.lookup_reverse {members : List (String × α)} (sorted : Sorted members)
    (name : String) : members.reverse.lookup name = members.lookup name := by
  induction members with
  | nil => rfl
  | cons first members ih =>
      obtain ⟨least, later⟩ := List.pairwise_cons.mp sorted
      rw [List.reverse_cons, List.lookup_append, ih later, lookup_member, lookup_member]
      by_cases same : name = first.1
      · rw [if_pos same, if_pos same, same, lookup_of_less least]
        rfl
      · rw [if_neg same, if_neg same, List.lookup_nil, Option.or_none]

/-- Members in order stay as they are. -/
theorem Sorted.collects {members : List (String × α)} (sorted : Sorted members) :
    Collects members members :=
  ⟨sorted, fun name => (sorted.lookup_reverse name).symm⟩

end

end RpcDispatch.Json
