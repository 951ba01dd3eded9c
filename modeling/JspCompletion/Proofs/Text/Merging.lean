import JspCompletion.Proofs.Text.Recognize

/-!
# Merging what is found by place

Two searches over one text each give values with their places.  Sorted by place
with a sort that keeps the order of equal items, the values of the two searches
are merged: where both make something of the same form, the values of the first
stand in front of those of the second.
-/

namespace JspCompletion
namespace Text

/-- What is made of the forms found in a text, each value at the place of its
form. -/
def spread (values : α → List β) (places : List (Nat × α)) : List (Nat × β) :=
  places.flatMap fun place => (values place.2).map fun value => (place.1, value)

@[simp] theorem spread_cons (values : α → List β) (place : Nat × α) (places : List (Nat × α)) :
    spread values (place :: places) =
      (values place.2).map (fun value => (place.1, value)) ++ spread values places := rfl

theorem map_snd_spread (values : α → List β) (places : List (Nat × α)) :
    (spread values places).map (·.2) = places.flatMap fun place => values place.2 := by
  simp [spread, List.map_flatMap, Function.comp_def]

/-- The first item does not stand behind the second. -/
def byPlace (left right : Nat × β) : Bool :=
  left.1 ≤ right.1

/-- Sorting puts an item behind those that stand in front of it and before all
others. -/
theorem exists_mergeSort_cons (item : Nat × β) (items : List (Nat × β)) :
    ∃ front back, items.mergeSort byPlace = front ++ back ∧
      (∀ other ∈ front, other.1 < item.1) ∧ (∀ other ∈ back, item.1 ≤ other.1) ∧
      (item :: items).mergeSort byPlace = front ++ item :: back := by
  have transitive (first second third : Nat × β)
      (lower : byPlace first second = true) (upper : byPlace second third = true) :
      byPlace first third = true := by
    simp only [byPlace, decide_eq_true_eq] at lower upper ⊢
    omega
  have total (first second : Nat × β) : (byPlace first second || byPlace second first) = true := by
    simp only [byPlace, Bool.or_eq_true, decide_eq_true_eq]
    omega
  obtain ⟨front, back, whole, others, before⟩ :=
    List.mergeSort_cons transitive total item items
  have sorted := List.pairwise_mergeSort transitive total (item :: items)
  rw [whole, List.pairwise_append, List.pairwise_cons] at sorted
  refine ⟨front, back, others, ?_, ?_, whole⟩
  · intro other member
    simpa [byPlace] using before other member
  · intro other member
    simpa [byPlace] using sorted.2.1.1 other member

theorem mergeSort_cons_of_split
    {item : Nat × β}
    {items front back : List (Nat × β)}
    (others : items.mergeSort byPlace = front ++ back)
    (before : ∀ other ∈ front, other.1 < item.1)
    (behind : ∀ other ∈ back, item.1 ≤ other.1) :
    (item :: items).mergeSort byPlace = front ++ item :: back := by
  obtain ⟨first, last, split, isBefore, isBehind, whole⟩ := exists_mergeSort_cons item items
  rw [others] at split
  rcases List.append_eq_append_iff.mp split with ⟨more, rfl, rfl⟩ | ⟨more, rfl, rfl⟩
  · cases more with
    | nil => simpa using whole
    | cons other more =>
        have lower := isBefore other (by simp)
        have upper := behind other (by simp)
        omega
  · cases more with
    | nil => simpa using whole
    | cons other more =>
        have lower := before other (by simp)
        have upper := isBehind other (by simp)
        omega

variable {start : Nat} {first later more : List (Nat × β)}

/-- Items at the first place stay in front and in order. -/
theorem mergeSort_append_of_first
    (atStart : ∀ item ∈ first, item.1 = start)
    (behind : ∀ item ∈ more, start ≤ item.1) :
    (first ++ more).mergeSort byPlace = first ++ more.mergeSort byPlace := by
  induction first with
  | nil => rfl
  | cons item first inductionHypothesis =>
      have others : (first ++ more).mergeSort byPlace = [] ++ (first ++ more.mergeSort byPlace) :=
        inductionHypothesis fun other member => atStart other (List.mem_cons_of_mem item member)
      apply mergeSort_cons_of_split others
      · nofun
      · intro other member
        rw [atStart item List.mem_cons_self]
        rcases List.mem_append.mp member with inFirst | inMore
        · exact (atStart other (List.mem_cons_of_mem item inFirst)).ge
        · exact behind other (List.mem_mergeSort.mp inMore)

/-- Items at the first place move in front of later ones. -/
theorem mergeSort_append_first_append
    (atStart : ∀ item ∈ first, item.1 = start)
    (laterBehind : ∀ item ∈ later, start < item.1)
    (behind : ∀ item ∈ more, start ≤ item.1) :
    (later ++ (first ++ more)).mergeSort byPlace = first ++ (later ++ more).mergeSort byPlace := by
  induction later with
  | nil => exact mergeSort_append_of_first atStart behind
  | cons item later inductionHypothesis =>
      obtain ⟨front, back, split, isBefore, isBehind, whole⟩ :=
        exists_mergeSort_cons item (later ++ more)
      have others : (later ++ (first ++ more)).mergeSort byPlace = (first ++ front) ++ back := by
        rw [inductionHypothesis fun other member =>
          laterBehind other (List.mem_cons_of_mem item member), split, List.append_assoc]
      rw [List.cons_append, List.cons_append, whole, ← List.append_assoc first]
      apply mergeSort_cons_of_split others _ isBehind
      intro other member
      rcases List.mem_append.mp member with inFirst | inFront
      · rw [atStart other inFirst]
        exact laterBehind item List.mem_cons_self
      · exact isBefore other inFront

/-- Two kinds of values that are made of the same forms are merged form by
form when they are sorted by place. -/
theorem mergeSort_spread
    {values others : α → List β}
    {places : List (Nat × α)}
    (increasing : places.Pairwise fun left right => left.1 < right.1) :
    (spread values places ++ spread others places).mergeSort byPlace =
      spread (fun form => values form ++ others form) places := by
  induction places with
  | nil => simp [spread]
  | cons place places inductionHypothesis =>
      rw [List.pairwise_cons] at increasing
      have behind (values : α → List β) : ∀ item ∈ spread values places, place.1 < item.1 := by
        intro item member
        obtain ⟨other, isPlace, made⟩ := List.mem_flatMap.mp member
        obtain ⟨value, _, rfl⟩ := List.mem_map.mp made
        exact increasing.1 other isPlace
      have here (values : List β) :
          ∀ item ∈ values.map fun value => (place.1, value), item.1 = place.1 := by
        intro item member
        obtain ⟨value, _, rfl⟩ := List.mem_map.mp member
        rfl
      have merged := inductionHypothesis increasing.2
      rw [spread_cons, spread_cons, spread_cons, List.append_assoc,
        mergeSort_append_of_first (here _), mergeSort_append_first_append (here _) (behind values),
        merged, List.map_append, List.append_assoc]
      · exact fun item member => (behind others item member).le
      · intro item member
        rcases List.mem_append.mp member with inValues | inOthers
        · exact (behind values item inValues).le
        · rcases List.mem_append.mp inOthers with atPlace | inOthers
          · exact (here _ item atPlace).ge
          · exact (behind others item inOthers).le

end Text
end JspCompletion
