import JspCompletion.Proofs.Registry.Steady
import JspCompletion.Proofs.Variables.Desired

/-!
# Registering missing variables

At the end of a sweep a scanner goes through the variables that its text
declares and registers those whose names are not taken.  The invariant of this
module holds from one variable to the next: what was there stays, everything
new is noted, and all that is noted is there and wanted.
-/

namespace JspCompletion

open Registry Markup

namespace VariableScanner

/-- The entry is the variable that a scanner noted. -/
structure Shows (item : OwnedVariable) (entry : Entry) : Prop where
  isVariable : ∃ var, entry.element = .var var ∧ IsVariable (item.name, item.typeName) var
  steady : entry.IsSteady

theorem Shows.congr
    {item : OwnedVariable}
    {entry other : Entry}
    (isShown : Shows item entry)
    (same : other.timeless = entry.timeless) :
    Shows item other := by
  obtain ⟨var, elementEq, isVariable⟩ := isShown.isVariable
  exact
    { isVariable := ⟨var, (congrArg Entry.element same).trans elementEq, isVariable⟩
      steady := isShown.steady.congr same }

/-! ## Registering what is missing -/

/-- The scanner and its registry while missing variables are registered: the
entries of `base` are untouched, everything new is noted, and all that is noted
is there and wanted. -/
structure Filled
    (base : Registry)
    (kept : List OwnedVariable)
    (reserved : List String)
    (desired : List (String × Option String))
    (state : VariableScanner × Registry) : Prop where
  consistent : state.2.Consistent
  nextId_le : base.nextId ≤ state.2.nextId
  old : ∀ id, id.value < base.nextId → entry? state.2 id = base.entry? id
  new : ∀ id ∈ state.2.ids, base.nextId ≤ id.value → ∃ item ∈ state.1.owned, item.id = id
  shown : ∀ item ∈ state.1.owned, ∃ entry,
    entry? state.2 item.id = some entry ∧ Shows item entry
  keeps : kept ⊆ state.1.owned
  adds : ∀ item ∈ state.1.owned, item ∈ kept ∨ base.nextId ≤ item.id.value
  names : (state.1.owned.map (·.name)).Nodup
  wanted : ∀ item ∈ state.1.owned, (item.name, item.typeName) ∈ desired
  free : ∀ item ∈ state.1.owned, item.name ∉ reserved

section Filling

variable {base : Registry} {kept : List OwnedVariable} {reserved : List String}
  {desired : List (String × Option String)} {state : VariableScanner × Registry}
  {wanted : String × Option String}

theorem Filled.register
    (filled : Filled base kept reserved desired state)
    (now : Time)
    (span : Nat)
    {var : ExpressionVariable}
    (listed : wanted ∈ desired)
    (isVariable : IsVariable wanted var)
    (notOwned : ∀ item ∈ state.1.owned, item.name ≠ wanted.1)
    (notReserved : wanted.1 ∉ reserved) :
    Filled base kept reserved desired (register now span state wanted var) := by
  have entryEq := filled.consistent.entry?_add now (.var var) none (some { span, plan := [] })
  have ownedIff := mem_owned_register now span state wanted var
  refine
    { consistent := (filled.consistent.evolves_add now _ _ _).consistent
      nextId_le := Nat.le_succ_of_le filled.nextId_le
      old := ?_
      new := ?_
      shown := ?_
      keeps := fun item member => (ownedIff item).mpr (Or.inl (filled.keeps member))
      adds := ?_
      names := ?_
      wanted := ?_
      free := ?_ }
  · intro id known
    refine (entryEq id).trans ?_
    rw [if_neg, filled.old id known]
    rintro rfl
    exact absurd known (Nat.not_lt.mpr filled.nextId_le)
  · intro id member later
    change id ∈ (state.2.add now _ _ _).2.ids at member
    rw [ids_add, List.mem_append, List.mem_singleton] at member
    rcases member with known | rfl
    · obtain ⟨item, owned, sameId⟩ := filled.new id known later
      exact ⟨item, (ownedIff item).mpr (Or.inl owned), sameId⟩
    · exact ⟨_, (ownedIff _).mpr (Or.inr rfl), rfl⟩
  · intro item member
    rcases (ownedIff item).mp member with old | rfl
    · obtain ⟨entry, found, isShown⟩ := filled.shown item old
      -- What is noted has been given out, so it is not the next identity.
      refine ⟨entry, (entryEq item.id).trans ?_, isShown⟩
      rw [if_neg, found]
      intro isNext
      have below := filled.consistent.below _ (mem_of_entry?_eq_some found)
      rw [isNext] at below
      exact Nat.lt_irrefl _ below
    · refine ⟨_, (entryEq _).trans (if_pos rfl), ⟨var, rfl, isVariable⟩, ?_⟩
      rintro lifetime ⟨⟩
      rfl
  · intro item member
    rcases (ownedIff item).mp member with old | rfl
    · exact filled.adds item old
    · exact Or.inr filled.nextId_le
  · rw [VariableScanner.register, List.map_append, List.nodup_append]
    refine ⟨filled.names, List.pairwise_singleton _ _, ?_⟩
    rintro name listed other otherEq rfl
    obtain ⟨item, owned, rfl⟩ := List.mem_map.mp listed
    exact notOwned item owned (List.mem_singleton.mp otherEq)
  · intro item member
    rcases (ownedIff item).mp member with old | rfl
    · exact filled.wanted item old
    · exact listed
  · intro item member
    rcases (ownedIff item).mp member with old | rfl
    · exact filled.free item old
    · exact notReserved

end Filling

/-- A wanted variable is registered unless its name is taken, so afterwards it
is. -/
theorem Filled.addVariable
    {base : Registry}
    {kept : List OwnedVariable}
    {reserved : List String}
    {text : List Char}
    {state : VariableScanner × Registry}
    {wanted : String × Option String}
    (filled : Filled base kept reserved (desired text) state)
    (now : Time)
    (span : Nat)
    (listed : wanted ∈ desired text) :
    Filled base kept reserved (desired text) (addVariable now span reserved state wanted) ∧
      state.1.owned ⊆ (VariableScanner.addVariable now span reserved state wanted).1.owned ∧
      ((∃ item ∈ (VariableScanner.addVariable now span reserved state wanted).1.owned,
        item.name = wanted.1) ∨ wanted.1 ∈ reserved) := by
  obtain ⟨var, made, isVariable⟩ := exists_make_of_mem_desired listed
  rw [addVariable_eq made]
  split
  · rename_i taken
    refine ⟨filled, List.Subset.refl _, ?_⟩
    rw [Bool.or_eq_true, List.any_eq_true, List.contains_iff_mem] at taken
    simpa using taken
  · rename_i free
    rw [Bool.or_eq_true, not_or, List.any_eq_true, List.contains_iff_mem] at free
    have notOwned : ∀ item ∈ state.1.owned, item.name ≠ wanted.1 := by
      intro item owned same
      exact free.1 ⟨item, owned, beq_iff_eq.mpr same⟩
    refine ⟨filled.register now span listed isVariable notOwned free.2,
      List.subset_append_left _ _, Or.inl ⟨_, List.mem_append_right _ List.mem_cons_self, rfl⟩⟩

/-- Going through wanted variables takes care of each. -/
theorem Filled.foldl
    {base : Registry}
    {kept : List OwnedVariable}
    {reserved : List String}
    {text : List Char}
    {state : VariableScanner × Registry}
    (filled : Filled base kept reserved (desired text) state)
    (now : Time)
    (span : Nat)
    (part : List (String × Option String))
    (listed : part ⊆ desired text) :
    Filled base kept reserved (desired text)
        (part.foldl (VariableScanner.addVariable now span reserved) state) ∧
      state.1.owned ⊆ (part.foldl (VariableScanner.addVariable now span reserved) state).1.owned ∧
      ∀ wanted ∈ part,
        (∃ item ∈ (part.foldl (VariableScanner.addVariable now span reserved) state).1.owned,
          item.name = wanted.1) ∨ wanted.1 ∈ reserved := by
  induction part generalizing state with
  | nil => exact ⟨filled, List.Subset.refl _, by simp⟩
  | cons wanted rest inductionHypothesis =>
      obtain ⟨filledNext, grows, covered⟩ :=
        filled.addVariable now span (listed List.mem_cons_self)
      obtain ⟨filledRest, growsRest, coveredRest⟩ := inductionHypothesis filledNext
        fun other member => listed (List.mem_cons_of_mem _ member)
      refine ⟨filledRest, List.Subset.trans grows growsRest, ?_⟩
      intro other member
      rcases List.mem_cons.mp member with rfl | later
      · rcases covered with ⟨item, owned, named⟩ | taken
        · exact Or.inl ⟨item, growsRest owned, named⟩
        · exact Or.inr taken
      · exact coveredRest other later

/-- Where all names are taken nothing is registered. -/
theorem foldl_addVariable_of_taken
    (now : Time)
    (span : Nat)
    (reserved : List String)
    (state : VariableScanner × Registry)
    (part : List (String × Option String))
    (taken : ∀ wanted ∈ part,
      (∃ item ∈ state.1.owned, item.name = wanted.1) ∨ wanted.1 ∈ reserved) :
    part.foldl (addVariable now span reserved) state = state := by
  induction part with
  | nil => rfl
  | cons wanted rest inductionHypothesis =>
      have isTaken : (state.1.owned.any (·.name == wanted.1) ||
          reserved.contains wanted.1) = true := by
        simpa using taken wanted List.mem_cons_self
      have unchanged : VariableScanner.addVariable now span reserved state wanted = state := by
        simp only [VariableScanner.addVariable, isTaken, if_true]
      rw [List.foldl_cons, unchanged]
      exact inductionHypothesis fun other member => taken other (List.mem_cons_of_mem _ member)

end VariableScanner
end JspCompletion
