import Clearance.Policy.Pattern

/-!
# What patterns cover

The names that a grant or a rule pattern covers, said of the characters of both.  A grant covers
itself, whatever goes on from the part before its star, and, if it has no dot, whatever goes on
from it with a dot.  A rule pattern covers the same, and a pattern with dots is an ancestor too;
a star at the end rules the ancestor out.  The two differ in the dotted ancestors and in nothing
else.
-/

namespace Clearance.Pattern

/-- A pattern with a star at its end covers the names that begin as it does before the star. -/
def Starred (pattern name : String) : Prop :=
  ∃ stem : String, pattern = stem ++ "*" ∧ stem.toList <+: name.toList

/-- A pattern is an ancestor of the names that go on from it with a dot. -/
def Above (pattern name : String) : Prop :=
  pattern.toList ++ ['.'] <+: name.toList

/-- What a standing grant covers. -/
def GrantCovers (granted name : String) : Prop :=
  granted = name ∨ Starred granted name ∨ '.' ∉ granted.toList ∧ Above granted name

/-- What a rule pattern covers. -/
def RuleCovers (pattern name : String) : Prop :=
  pattern = name ∨ Starred pattern name ∨
    (∀ stem : String, pattern ≠ stem ++ "*") ∧ Above pattern name

theorem isStarred_iff {pattern : String} :
    isStarred pattern = true ↔ ∃ stem : String, pattern = stem ++ "*" := by
  rw [isStarred, Text.endsWith_iff]
  constructor
  · rintro ⟨stem, h⟩
    refine ⟨String.ofList stem, String.toList_inj.1 ?_⟩
    simp [← h]
  · rintro ⟨stem, rfl⟩
    exact ⟨stem.toList, by simp⟩

@[simp] theorem stem_append_star (s : String) : stem (s ++ "*") = s := by
  simp [stem]

theorem starred_iff {pattern name : String} :
    Starred pattern name ↔
      isStarred pattern = true ∧ Text.beginsWith name (stem pattern) = true := by
  rw [isStarred_iff, Text.beginsWith_iff]
  constructor
  · rintro ⟨s, rfl, h⟩
    exact ⟨⟨s, rfl⟩, by simpa using h⟩
  · rintro ⟨⟨s, rfl⟩, h⟩
    exact ⟨s, rfl, by simpa using h⟩

theorem above_iff {pattern name : String} :
    Above pattern name ↔ Text.beginsWith name (pattern ++ ".") = true := by
  rw [Text.beginsWith_iff, String.toList_append]
  exact Iff.rfl

theorem grantCovers_iff {granted name : String} :
    grantCovers granted name = true ↔ GrantCovers granted name := by
  simp [grantCovers, wildcardCovers, hierarchyCovers, GrantCovers, starred_iff, above_iff, or_assoc]

theorem covers_iff {pattern name : String} :
    covers pattern name = true ↔ RuleCovers pattern name := by
  unfold RuleCovers
  rw [starred_iff, above_iff, ← not_exists, ← isStarred_iff]
  unfold covers
  by_cases hname : pattern = name
  · simp [hname]
  · by_cases hstar : isStarred pattern = true
    · simp [hname, hstar]
    · simp [hname, hstar]

/-- What is below a starred name goes on from the part before the star. -/
theorem Above.starred {stem name : String} (h : Above (stem ++ "*") name) :
    Starred (stem ++ "*") name := by
  refine ⟨stem, rfl, List.IsPrefix.trans ?_ h⟩
  rw [String.toList_append, List.append_assoc]
  exact List.prefix_append _ _

theorem not_above_self {name : String} : ¬ Above name name := by
  intro h
  have shorter := h.length_le
  rw [List.length_append, List.length_singleton] at shorter
  omega

theorem ruleCovers_of_grantCovers {granted name : String} (h : GrantCovers granted name) :
    RuleCovers granted name := by
  obtain same | starred | ⟨_, above⟩ := h
  · exact .inl same
  · exact .inr (.inl starred)
  · -- A grant can have no dot and a star at its end; then the star covers what is below it.
    by_cases hstar : ∃ stem : String, granted = stem ++ "*"
    · obtain ⟨stem, rfl⟩ := hstar
      exact .inr (.inl above.starred)
    · exact .inr (.inr ⟨not_exists.1 hstar, above⟩)

theorem ruleCovers_beyond_iff {pattern name : String} :
    RuleCovers pattern name ∧ ¬ GrantCovers pattern name ↔
      '.' ∈ pattern.toList ∧ (∀ stem : String, pattern ≠ stem ++ "*") ∧ Above pattern name := by
  constructor
  · rintro ⟨same | starred | ⟨unstarred, above⟩, uncovered⟩
    · exact absurd (.inl same) uncovered
    · exact absurd (.inr (.inl starred)) uncovered
    · have dotted : '.' ∈ pattern.toList :=
        Decidable.byContradiction fun undotted => uncovered (.inr (.inr ⟨undotted, above⟩))
      exact ⟨dotted, unstarred, above⟩
  · rintro ⟨dotted, unstarred, above⟩
    refine ⟨.inr (.inr ⟨unstarred, above⟩), ?_⟩
    rintro (rfl | ⟨stem, rfl, _⟩ | ⟨undotted, _⟩)
    · exact not_above_self above
    · exact unstarred stem rfl
    · exact undotted dotted

/-- A covered name is the pattern itself or leaves it at the star or at a dot. -/
theorem RuleCovers.bounded {pattern name : String} (h : RuleCovers pattern name) :
    pattern = name ∨ Starred pattern name ∨ Above pattern name := by
  obtain same | starred | ⟨_, above⟩ := h
  · exact .inl same
  · exact .inr (.inl starred)
  · exact .inr (.inr above)

/-- A name that goes on from a pattern without a star or a dot between them is not covered. -/
theorem not_ruleCovers_append {pattern rest : String} (unstarred : ¬ ['*'] <:+ pattern.toList)
    (more : rest ≠ "") (undotted : ¬ ['.'] <+: rest.toList) :
    ¬ RuleCovers pattern (pattern ++ rest) := by
  intro h
  obtain same | ⟨stem, rfl, _⟩ | above := h.bounded
  · have longer := congrArg String.toList same
    rw [String.toList_append, List.self_eq_append_right, String.toList_eq_nil_iff] at longer
    exact more longer
  · exact unstarred ⟨stem.toList, by simp⟩
  · rw [Above, String.toList_append, List.prefix_append_right_inj] at above
    exact undotted above

theorem unstarred_iff {pattern : String} :
    (∀ stem : String, pattern ≠ stem ++ "*") ↔ ¬ ['*'] <:+ pattern.toList := by
  rw [← not_exists, ← isStarred_iff, isStarred, Text.endsWith_iff]
  exact Iff.rfl

/--
A rule pattern covers what a standing grant of the same spelling covers.  What it covers beyond
that are the names below a pattern with a dot and without a star at its end.  Neither covers a
name that goes on from it without a star or a dot in between.
-/
theorem covers_beyond_grantCovers (pattern name : String) :
    (grantCovers pattern name = true -> covers pattern name = true) ∧
    (covers pattern name = true ∧ grantCovers pattern name = false ↔
      '.' ∈ pattern.toList ∧ ¬ ['*'] <:+ pattern.toList ∧
        pattern.toList ++ ['.'] <+: name.toList) ∧
    (covers pattern name = true ∨ grantCovers pattern name = true ->
      pattern = name ∨ (∃ stem : String, pattern = stem ++ "*" ∧ stem.toList <+: name.toList) ∨
        pattern.toList ++ ['.'] <+: name.toList) ∧
    ∀ rest : String, rest ≠ "" -> ¬ ['.'] <+: rest.toList -> ¬ ['*'] <:+ pattern.toList ->
      covers pattern (pattern ++ rest) = false ∧ grantCovers pattern (pattern ++ rest) = false := by
  simp only [← Bool.not_eq_true, covers_iff, grantCovers_iff, ← unstarred_iff]
  refine ⟨ruleCovers_of_grantCovers, ruleCovers_beyond_iff, ?_, ?_⟩
  · rintro (ruled | granted)
    · exact ruled.bounded
    · exact (ruleCovers_of_grantCovers granted).bounded
  · intro rest more undotted unstarred
    have uncovered := not_ruleCovers_append (unstarred_iff.1 unstarred) more undotted
    exact ⟨uncovered, mt ruleCovers_of_grantCovers uncovered⟩

end Clearance.Pattern
