import JspCompletion.VariableScanner
import JspCompletion.Proofs.Text.Blank
import Mathlib.Data.List.Induction

/-!
# The variables that a text declares

A text may bind a name several times.  This module says what a scanner makes of
it: every bound name once, with the class of its last bean declaration, or
without a type if there is none.
-/

namespace JspCompletion

/-! ## Bindings -/

namespace Markup

/-- What holds of every binding that is read from a text. -/
structure Binding.WellFormed (binding : Binding) : Prop where
  nonempty : binding.name ≠ ""
  trimmed : Text.trimmed binding.name = binding.name
  trimmedType : ∀ typeName, binding.typeName = some typeName →
    Text.trimmed typeName = typeName
  untyped : binding.source ≠ .bean → binding.typeName = none

theorem Binding.wellFormed_of_mem_ofTag
    {tag : List Char}
    {binding : Binding}
    (member : binding ∈ ofTag tag) :
    binding.WellFormed := by
  obtain ⟨attr, -, made⟩ := List.mem_filterMap.mp member
  simp only at made
  split at made
  · split at made
    · cases made
    · rename_i filled
      cases made
      exact ⟨filled, Text.trimmed_trimmed _, nofun, fun _ => rfl⟩
  · cases made

theorem Binding.wellFormed_of_ofBean?
    {element : List Char}
    {binding : Binding}
    (made : ofBean? element = some binding) :
    binding.WellFormed := by
  unfold ofBean? at made
  simp only [Option.bind_eq_bind, Option.bind_eq_some_iff] at made
  obtain ⟨id, -, className, -, made⟩ := made
  split at made
  · cases made
  · rename_i filled
    cases made
    refine ⟨filled, Text.trimmed_trimmed _, ?_, fun notBean => absurd rfl notBean⟩
    rintro typeName ⟨⟩
    exact Text.trimmed_trimmed _

theorem wellFormed_of_mem_bindings
    {text : List Char}
    {binding : Binding}
    (member : binding ∈ bindings text) :
    binding.WellFormed := by
  obtain ⟨⟨start, found⟩, sorted, rfl⟩ := List.mem_map.mp member
  rw [List.mem_mergeSort] at sorted
  rcases List.mem_append.mp sorted with inTags | inBeans
  · obtain ⟨⟨_, tag⟩, -, ofTag⟩ := List.mem_flatMap.mp inTags
    obtain ⟨other, inTag, equal⟩ := List.mem_map.mp ofTag
    cases equal
    exact Binding.wellFormed_of_mem_ofTag inTag
  · obtain ⟨⟨_, element⟩, -, ofBean⟩ := List.mem_filterMap.mp inBeans
    obtain ⟨other, made, equal⟩ := Option.map_eq_some_iff.mp ofBean
    cases equal
    exact Binding.wellFormed_of_ofBean? made

/-- The class of the last bean declaration of a name. -/
def lastClass (bindings : List Binding) (name : String) : Option String :=
  (bindings.filter fun binding =>
    binding.name == name && binding.source == .bean).getLast?.bind (·.typeName)

theorem lastClass_concat
    (bindings : List Binding)
    (last : Binding)
    (name : String) :
    lastClass (bindings ++ [last]) name =
      if last.name = name ∧ last.source = .bean then last.typeName
      else lastClass bindings name := by
  rw [lastClass, List.filter_append]
  by_cases applies : last.name = name ∧ last.source = .bean
  · simp [applies]
  · have skipped : (last.name == name && last.source == .bean) = false := by
      simpa using applies
    rw [if_neg applies, List.filter_cons_of_neg (by rw [skipped]; decide), List.filter_nil,
      List.append_nil, lastClass]

theorem lastClass_eq_none
    {bindings : List Binding}
    {name : String}
    (unbound : ∀ binding ∈ bindings, binding.name ≠ name) :
    lastClass bindings name = none := by
  have nothing : (bindings.filter fun binding =>
      binding.name == name && binding.source == .bean) = [] := by
    rw [List.filter_eq_nil_iff]
    intro binding member
    simp [unbound binding member]
  rw [lastClass, nothing]
  rfl

end Markup

namespace VariableScanner

open Markup

/-- Variables as they should be: every bound name once, with the class of its
last bean. -/
structure Lists (bindings : List Binding) (found : List (String × Option String)) : Prop where
  nodup : (found.map (·.1)).Nodup
  mem_iff : ∀ name typeName, (name, typeName) ∈ found ↔
    (∃ binding ∈ bindings, binding.name = name) ∧ typeName = lastClass bindings name

theorem Lists.any_iff
    {bindings : List Binding}
    {found : List (String × Option String)}
    (lists : Lists bindings found)
    (name : String) :
    found.any (·.1 == name) = true ↔ ∃ binding ∈ bindings, binding.name = name := by
  rw [List.any_eq_true]
  constructor
  · rintro ⟨⟨other, typeName⟩, member, same⟩
    rw [← beq_iff_eq.mp same]
    exact ((lists.mem_iff other typeName).mp member).1
  · intro bound
    exact ⟨(name, _), (lists.mem_iff name _).mpr ⟨bound, rfl⟩, beq_self_eq_true name⟩

theorem exists_mem_concat_iff
    (bindings : List Binding)
    (last : Binding)
    (name : String) :
    (∃ binding ∈ bindings ++ [last], binding.name = name) ↔
      (∃ binding ∈ bindings, binding.name = name) ∨ last.name = name := by
  simp [or_and_right, exists_or]

section OneMore

variable {bindings : List Binding} {found : List (String × Option String)} {last : Binding}

/-- A later bean changes the type where the name stands. -/
theorem Lists.retype
    (lists : Lists bindings found)
    (bound : ∃ binding ∈ bindings, binding.name = last.name)
    (bean : last.source = .bean) :
    Lists (bindings ++ [last]) (found.map fun item =>
      if item.1 == last.name then (item.1, last.typeName) else item) := by
  have sameNames : (found.map fun item =>
      if item.1 == last.name then (item.1, last.typeName) else item).map (·.1) =
        found.map (·.1) := by
    rw [List.map_map]
    apply List.map_congr_left
    intro item _
    simp only [Function.comp_apply]
    split <;> rfl
  refine ⟨by rw [sameNames]; exact lists.nodup, ?_⟩
  intro name typeName
  rw [exists_mem_concat_iff, lastClass_concat, List.mem_map]
  constructor
  · rintro ⟨⟨other, otherType⟩, member, equal⟩
    obtain ⟨otherBound, rfl⟩ := (lists.mem_iff other otherType).mp member
    by_cases same : other = last.name
    · simp only [same, beq_self_eq_true, if_true, Prod.mk.injEq] at equal
      obtain ⟨rfl, rfl⟩ := equal
      exact ⟨Or.inr rfl, by simp [bean]⟩
    · simp only [beq_eq_false_iff_ne.mpr same, Bool.false_eq_true, if_false,
        Prod.mk.injEq] at equal
      obtain ⟨rfl, rfl⟩ := equal
      exact ⟨Or.inl otherBound, by simp [Ne.symm same]⟩
  · rintro ⟨nameBound, rfl⟩
    have knownName : ∃ binding ∈ bindings, binding.name = name := by
      rcases nameBound with earlier | rfl
      · exact earlier
      · exact bound
    refine ⟨(name, lastClass bindings name), (lists.mem_iff name _).mpr ⟨knownName, rfl⟩, ?_⟩
    by_cases same : name = last.name
    · simp [same, bean]
    · simp [same, Ne.symm same]

/-- Another later binding changes nothing. -/
theorem Lists.pass
    (lists : Lists bindings found)
    (bound : ∃ binding ∈ bindings, binding.name = last.name)
    (notBean : last.source ≠ .bean) :
    Lists (bindings ++ [last]) found := by
  refine ⟨lists.nodup, ?_⟩
  intro name typeName
  rw [exists_mem_concat_iff, lastClass_concat, if_neg fun applies => notBean applies.2,
    lists.mem_iff]
  refine and_congr_left fun _ => ⟨Or.inl, ?_⟩
  rintro (earlier | rfl)
  · exact earlier
  · exact bound

/-- The first binding of a name brings its type. -/
theorem Lists.append
    (lists : Lists bindings found)
    (unbound : ¬∃ binding ∈ bindings, binding.name = last.name)
    (untyped : last.source ≠ .bean → last.typeName = none) :
    Lists (bindings ++ [last]) (found ++ [(last.name, last.typeName)]) := by
  refine ⟨?_, ?_⟩
  · rw [List.map_append, List.nodup_append]
    refine ⟨lists.nodup, List.pairwise_singleton _ _, ?_⟩
    rintro name listed other otherEq rfl
    obtain ⟨item, member, rfl⟩ := List.mem_map.mp listed
    apply unbound
    rw [← lists.any_iff, List.any_eq_true]
    exact ⟨item, member, beq_iff_eq.mpr (List.mem_singleton.mp otherEq)⟩
  · intro name typeName
    rw [exists_mem_concat_iff, lastClass_concat, List.mem_append, lists.mem_iff,
      List.mem_singleton, Prod.mk.injEq]
    by_cases same : name = last.name
    · subst same
      have firstType : (if last.name = last.name ∧ last.source = .bean then last.typeName
          else lastClass bindings last.name) = last.typeName := by
        by_cases bean : last.source = .bean
        · simp [bean]
        · have noClass : lastClass bindings last.name = none :=
            lastClass_eq_none fun binding member same => unbound ⟨binding, member, same⟩
          simp [bean, noClass, untyped bean]
      rw [firstType]
      simp [unbound]
    · simp [same, Ne.symm same]

theorem Lists.addBinding
    (lists : Lists bindings found)
    (untyped : last.source ≠ .bean → last.typeName = none) :
    Lists (bindings ++ [last]) (addBinding found last) := by
  have boundIff := lists.any_iff last.name
  unfold VariableScanner.addBinding
  split
  · rename_i known
    split
    · rename_i bean
      exact lists.retype (boundIff.mp known) bean
    · rename_i notBean
      exact lists.pass (boundIff.mp known) notBean
  · rename_i unknown
    exact lists.append (fun bound => unknown (boundIff.mpr bound)) untyped

end OneMore

/-- A scanner makes of a text what should be made of its bindings. -/
theorem lists_desired (text : List Char) : Lists (bindings text) (desired text) := by
  have wellFormed : ∀ binding ∈ bindings text, binding.WellFormed := fun _ member =>
    wellFormed_of_mem_bindings member
  unfold desired
  generalize bindings text = all at wellFormed
  induction all using List.reverseRecOn with
  | nil => exact ⟨List.Pairwise.nil, by simp⟩
  | append_singleton front last inductionHypothesis =>
      rw [List.foldl_append]
      refine (inductionHypothesis ?_).addBinding ?_
      · intro binding member
        exact wellFormed binding (List.mem_append_left _ member)
      · exact (wellFormed last (List.mem_append_right _ List.mem_cons_self)).untyped

/-! ## Registering a variable -/

/-- The descriptor of a wanted variable. -/
structure IsVariable (wanted : String × Option String) (var : ExpressionVariable) : Prop where
  name : var.name.text = wanted.1
  typeName : var.typeName = wanted.2.getD ""
  description : var.description = ""

/-- Every variable that a text declares has a descriptor. -/
theorem exists_make_of_mem_desired
    {text : List Char}
    {wanted : String × Option String}
    (member : wanted ∈ desired text) :
    ∃ var, ExpressionVariable.make wanted.1 (wanted.2.getD "") "" = .ok var ∧
      IsVariable wanted var := by
  obtain ⟨name, typeName⟩ := wanted
  obtain ⟨⟨binding, bound, rfl⟩, typeEq⟩ := ((lists_desired text).mem_iff name typeName).mp member
  have wellFormed := wellFormed_of_mem_bindings bound
  have notBlank : ¬Text.trimmed binding.name = "" := by
    rw [wellFormed.trimmed]
    exact wellFormed.nonempty
  have trimmedType : Text.trimmed (typeName.getD "") = typeName.getD "" := by
    cases typeName with
    | none => decide
    | some className =>
        obtain ⟨bean, last, beanType⟩ := Option.bind_eq_some_iff.mp typeEq.symm
        have listed := List.mem_of_mem_filter (List.mem_of_getLast? last)
        exact (wellFormed_of_mem_bindings listed).trimmedType className beanType
  have noDescription : Text.trimmed "" = "" := by decide
  refine ⟨{ name := ⟨Text.trimmed binding.name, notBlank⟩
            typeName := Text.trimmed (typeName.getD "")
            description := Text.trimmed "" }, ?_, wellFormed.trimmed, trimmedType, noDescription⟩
  simp [ExpressionVariable.make, Name.ofText, Name.ofText?, notBlank, pure, Except.pure, bind,
    Except.bind]

/-- A scanner and its registry after registering a variable. -/
def register
    (now : Time)
    (span : Nat)
    (state : VariableScanner × Registry)
    (wanted : String × Option String)
    (var : ExpressionVariable) : VariableScanner × Registry :=
  ({ state.1 with
      owned := state.1.owned ++
        [{ name := wanted.1, typeName := wanted.2, id := ⟨state.2.nextId⟩ }] },
    (state.2.add now (.var var) none (some { span, plan := [] })).2)

theorem mem_owned_register
    (now : Time)
    (span : Nat)
    (state : VariableScanner × Registry)
    (wanted : String × Option String)
    (var : ExpressionVariable)
    (item : OwnedVariable) :
    item ∈ (register now span state wanted var).1.owned ↔
      item ∈ state.1.owned ∨
        item = { name := wanted.1, typeName := wanted.2, id := ⟨state.2.nextId⟩ } := by
  rw [register, List.mem_append, List.mem_singleton]

/-- A variable is registered unless its name is taken. -/
theorem addVariable_eq
    {now : Time}
    {span : Nat}
    {reserved : List String}
    {state : VariableScanner × Registry}
    {wanted : String × Option String}
    {var : ExpressionVariable}
    (made : ExpressionVariable.make wanted.1 (wanted.2.getD "") "" = .ok var) :
    addVariable now span reserved state wanted =
      if state.1.owned.any (·.name == wanted.1) || reserved.contains wanted.1 then state
      else register now span state wanted var := by
  simp only [addVariable, made]
  rfl

/-- Registering a variable is all that may happen. -/
theorem addVariable_cases
    (now : Time)
    (span : Nat)
    (reserved : List String)
    (state : VariableScanner × Registry)
    (wanted : String × Option String) :
    addVariable now span reserved state wanted = state ∨
      ∃ var, addVariable now span reserved state wanted = register now span state wanted var := by
  cases made : ExpressionVariable.make wanted.1 (wanted.2.getD "") "" with
  | error failure =>
      left
      simp only [addVariable, made]
      split <;> rfl
  | ok var =>
      rw [addVariable_eq made]
      split
      · exact Or.inl rfl
      · exact Or.inr ⟨var, rfl⟩

end VariableScanner
end JspCompletion
