import JspCompletion.Text.Lower

/-!
# Lower case, twice

A lower-cased text has no lower-case form other than itself, nor has any part of
it, and it keeps its form in front of any other text.  This rests on a property
of the table of capitals: no lower-case form of one run is a capital of another.
-/

namespace JspCompletion
namespace Text

/-! ## The table of capitals -/

namespace CapitalRange

/-- The code point of the first lower-case form. -/
def firstForm (range : CapitalRange) : Nat :=
  (range.first + range.shift).toNat

/-- The code point of the last lower-case form. -/
def lastForm (range : CapitalRange) : Nat :=
  (range.last + range.shift).toNat

/-- The lower-case forms are characters, which lie on one side of the surrogates. -/
def hasForms (range : CapitalRange) : Bool :=
  decide (0 ≤ range.first + range.shift) &&
    (decide (range.lastForm < 0xD800) ||
      decide (0xDFFF < range.firstForm) && decide (range.lastForm < 0x110000))

/-- No lower-case form of the first run is a capital of the second: they lie
apart, or every second code point belongs to either. -/
def avoids (range other : CapitalRange) : Bool :=
  Nat.blt range.lastForm other.first || Nat.blt other.last range.firstForm ||
    (other.stride == 2 && (range.stride == 2 || range.first == range.last) &&
      (range.firstForm + other.first) % 2 == 1)

variable {range other : CapitalRange} {code : Nat}

theorem isValidChar_of_covers
    (proper : range.hasForms = true)
    (covered : range.covers code = true) :
    (code + range.shift).toNat.isValidChar := by
  simp only [hasForms, Bool.and_eq_true, Bool.or_eq_true, decide_eq_true_eq] at proper
  simp only [firstForm, lastForm] at proper
  simp only [covers, Bool.and_eq_true, decide_eq_true_eq] at covered
  simp only [Nat.isValidChar]
  omega

theorem covers_eq_false_of_avoids
    (proper : range.hasForms = true)
    (apart : range.avoids other = true)
    (covered : range.covers code = true) :
    other.covers (code + range.shift).toNat = false := by
  simp only [hasForms, Bool.and_eq_true, decide_eq_true_eq] at proper
  simp only [avoids, firstForm, lastForm, Bool.or_eq_true, Bool.and_eq_true, beq_iff_eq,
    Nat.blt_eq] at apart
  simp only [covers, Bool.and_eq_true, decide_eq_true_eq, beq_iff_eq] at covered
  obtain ⟨⟨low, high⟩, step⟩ := covered
  rw [← Bool.not_eq_true]
  intro covering
  simp only [covers, Bool.and_eq_true, decide_eq_true_eq, beq_iff_eq] at covering
  obtain ⟨⟨otherLow, otherHigh⟩, otherStep⟩ := covering
  rcases apart with (below | above) | ⟨⟨otherStride, stride | single⟩, parity⟩
  · omega
  · omega
  · rw [otherStride] at otherStep
    rw [stride] at step
    omega
  · rw [otherStride] at otherStep
    omega

end CapitalRange

theorem capitalRanges_hasForms : ∀ range ∈ capitalRanges, range.hasForms = true := by
  decide +kernel

/-- The capital `İ`, which the table leaves out, counts as a run of its own. -/
theorem capitalRanges_avoid :
    ∀ range ∈ capitalRanges,
      ∀ other ∈ (⟨0x130, 0x130, 1, 0⟩ :: capitalRanges), range.avoids other = true := by
  have checked : (capitalRanges.all fun range =>
      (⟨0x130, 0x130, 1, 0⟩ :: capitalRanges).all range.avoids) = true := by
    decide +kernel
  simpa only [List.all_eq_true] using checked

/-! ## Characters -/

theorem lowerChar_eq_self
    {char : Char}
    (uncovered : ∀ range ∈ (⟨0x130, 0x130, 1, 0⟩ :: capitalRanges),
      range.covers char.toNat = false) :
    lowerChar char = [char] := by
  have notDotted : (char.toNat == 0x130) = false := by
    rw [beq_eq_false_iff_ne]
    intro dotted
    have own := uncovered _ List.mem_cons_self
    rw [dotted] at own
    cases own
  have notFound : capitalRanges.find? (·.covers char.toNat) = none := by
    rw [List.find?_eq_none]
    intro range member
    rw [uncovered range (List.mem_cons_of_mem _ member)]
    exact Bool.false_ne_true
  simp [lowerChar, notDotted, notFound]

/-- A lower-case form of a character has no other one. -/
theorem lowerChar_of_mem_lowerChar
    {char form : Char}
    (isForm : form ∈ lowerChar char) :
    lowerChar form = [form] := by
  by_cases dotted : (char.toNat == 0x130) = true
  · rw [lowerChar, if_pos dotted, List.mem_cons, List.mem_singleton] at isForm
    rcases isForm with rfl | rfl
    · decide +kernel
    · decide +kernel
  · cases found : capitalRanges.find? (·.covers char.toNat) with
    | none =>
        have whole : lowerChar char = [char] := by
          rw [lowerChar, if_neg dotted, found]
        rw [whole, List.mem_singleton] at isForm
        rw [isForm, whole]
    | some range =>
        have listed := List.mem_of_find?_eq_some found
        have covered : range.covers char.toNat = true := by
          simpa only using List.find?_some found
        have proper := capitalRanges_hasForms range listed
        have code : form.toNat = (char.toNat + range.shift).toNat := by
          have valid := CapitalRange.isValidChar_of_covers proper covered
          rw [lowerChar, if_neg dotted, found, List.mem_singleton] at isForm
          rw [isForm, Char.ofNat, dif_pos valid]
          rfl
        apply lowerChar_eq_self
        intro other member
        rw [code]
        exact CapitalRange.covers_eq_false_of_avoids proper
          (capitalRanges_avoid range listed other member) covered

/-! ## Texts -/

/-- Every character is its own lower-case form. -/
def IsLowered (text : List Char) : Prop :=
  ∀ char ∈ text, lowerChar char = [char]

theorem IsLowered.of_prefix
    {text front : List Char}
    (isLowered : IsLowered text)
    (isFront : front <+: text) :
    IsLowered front :=
  fun char member => isLowered char (isFront.subset member)

theorem isLowered_lowerAfter
    (behind text : List Char) :
    IsLowered (lowerAfter behind text) := by
  induction text generalizing behind with
  | nil => exact List.forall_mem_nil _
  | cons char rest inductionHypothesis =>
      intro form member
      rw [lowerAfter] at member
      rcases List.mem_append.mp member with isForm | later
      · split at isForm
        · rw [List.mem_singleton.mp isForm]
          split
          · decide +kernel
          · decide +kernel
        · exact lowerChar_of_mem_lowerChar isForm
      · exact inductionHypothesis (char :: behind) form later

/-- A lower-cased text is in lower case. -/
theorem isLowered_lower (text : List Char) : IsLowered (lower text) :=
  isLowered_lowerAfter [] text

/-- What is in lower case stays as it is in front of any other text. -/
theorem IsLowered.lowerAfter_append
    {front : List Char}
    (isLowered : IsLowered front)
    (behind rest : List Char) :
    lowerAfter behind (front ++ rest) = front ++ lowerAfter (front.reverse ++ behind) rest := by
  induction front generalizing behind with
  | nil => rfl
  | cons char front inductionHypothesis =>
      have own := isLowered char List.mem_cons_self
      have noSigma : (char == 'Σ') = false := by
        rw [beq_eq_false_iff_ne]
        rintro rfl
        revert own
        decide +kernel
      have loweredRest : IsLowered front := fun other member =>
        isLowered other (List.mem_cons_of_mem char member)
      have later := inductionHypothesis loweredRest (char :: behind)
      simp [lowerAfter, noSigma, own, later]

theorem IsLowered.prefix_lower_append
    {front : List Char}
    (isLowered : IsLowered front)
    (rest : List Char) :
    front <+: lower (front ++ rest) := by
  rw [lower, isLowered.lowerAfter_append]
  exact List.prefix_append front _

/-- A text in lower case is its own lower-case form. -/
theorem IsLowered.lower_eq
    {text : List Char}
    (isLowered : IsLowered text) :
    lower text = text := by
  have whole := isLowered.lowerAfter_append [] []
  rwa [List.append_nil, lowerAfter, List.append_nil] at whole

end Text
end JspCompletion
