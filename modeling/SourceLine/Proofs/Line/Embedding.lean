import SourceLine.Proofs.Line.Constructs
import SourceLine.Proofs.Shape.Matches

/-!
# Lines in a context

A shape that occurs in a line occurs in every text around it. Of what a line opens, only a named
function can be lost by more text, and only to an anonymous one: a text with any of the three
shapes of functions opens exactly one of the two (`opensFunction_iff`).
-/

namespace SourceLine

theorem Shape.occursIn_embedded {s : Shape} {line : Text} (pre post : Text)
    (h : s.occursIn line = true) : s.occursIn (pre ++ line ++ post) = true := by
  obtain ⟨t, ht, hlanguage⟩ := occursIn_iff_exists.1 h
  exact occursIn_iff_exists.2 ⟨t, ht.trans (List.infix_append ..), hlanguage⟩

namespace Line

open Construct

variable {line : Text}

theorem hasTypedHeader_or_bindsFunction (h : opensNamedFunction line = true) :
    hasTypedHeader line = true ∨ bindsFunction line = true := by
  simp only [opensNamedFunction, Bool.or_eq_true, Bool.and_eq_true] at h
  exact h.imp_left And.left

/-- A line without a named function has a typed header only if it opens an anonymous one. -/
theorem opensNamedFunction_eq_false_iff : opensNamedFunction line = false ↔
    (hasTypedHeader line = true → opensAnonymousFunction line = true) ∧
      bindsFunction line = false := by
  simp [opensNamedFunction]

/-- A named or an anonymous function is opened by any of the shapes that functions have. -/
theorem opensFunction_iff :
    (namedFunction ∈ (outline line).constructs ∨ anonymousFunction ∈ (outline line).constructs) ↔
      hasTypedHeader line = true ∨ opensAnonymousFunction line = true ∨
        bindsFunction line = true := by
  simp only [mem_constructs, opens, opensNamedFunction, Bool.false_and, Bool.not_false,
    Bool.true_and]
  cases hasTypedHeader line <;> cases opensAnonymousFunction line <;>
    cases bindsFunction line <;> decide

theorem namedFunction_mem_iff (h : namedFunction ∈ (outline line).constructs ∨
    anonymousFunction ∈ (outline line).constructs) :
    namedFunction ∈ (outline line).constructs ↔
      anonymousFunction ∉ (outline line).constructs := by
  refine ⟨fun hnamed hanonymous => ?_, h.resolve_right⟩
  exact ((compatible_outline line {}).unnamed hanonymous).1 hnamed

/-- What a line opens is opened by every text around it, but for a named function in a text that
opens an anonymous one. -/
theorem outline_embedded (pre line post : Text) :
    (∀ D ∈ [opensClass, hasTypedHeader, opensAnonymousFunction, bindsFunction, opensControl],
      D line = true → D (pre ++ line ++ post) = true) ∧
    (opensNamedFunction line = true → opensNamedFunction (pre ++ line ++ post) = false →
      opensAnonymousFunction (pre ++ line ++ post) = true ∧
        bindsFunction (pre ++ line ++ post) = false) ∧
    (∀ c ∈ [classHeader, boundFunction, control], c ∈ (outline line).constructs →
      c ∈ (outline (pre ++ line ++ post)).constructs) ∧
    (namedFunction ∈ (outline line).constructs ∨ anonymousFunction ∈ (outline line).constructs →
      (namedFunction ∈ (outline (pre ++ line ++ post)).constructs ↔
        anonymousFunction ∉ (outline (pre ++ line ++ post)).constructs)) := by
  have hshape : ∀ s : Shape, s.occursIn line = true → s.occursIn (pre ++ line ++ post) = true :=
    fun s => Shape.occursIn_embedded pre post
  refine ⟨?_, ?_, ?_, ?_⟩
  · intro D hD
    simp only [List.mem_cons, List.not_mem_nil, or_false] at hD
    rcases hD with rfl | rfl | rfl | rfl | rfl <;> exact hshape _
  · intro h hlost
    obtain ⟨hanonymous, hbinds⟩ := opensNamedFunction_eq_false_iff.1 hlost
    refine ⟨?_, hbinds⟩
    rcases hasTypedHeader_or_bindsFunction h with hheader | hbound
    · exact hanonymous (hshape .typedHeader hheader)
    · exact absurd (hshape .boundFunction hbound) (Bool.eq_false_iff.1 hbinds)
  · intro c hc
    simp only [List.mem_cons, List.not_mem_nil, or_false] at hc
    simp only [mem_constructs]
    rcases hc with rfl | rfl | rfl
    · exact hshape .classHeader
    · exact hshape .boundFunction
    · exact hshape .control
  · intro h
    apply namedFunction_mem_iff
    rw [opensFunction_iff] at h ⊢
    exact h.imp (hshape .typedHeader) (Or.imp (hshape .anonymousFunction) (hshape .boundFunction))

set_option maxRecDepth 4096 in
theorem outline_embedded_unnamed :
    opensNamedFunction "foo(x) \x7b".toList = true ∧
      opensNamedFunction "foo(x) \x7b function() \x7b".toList = false ∧
      opensAnonymousFunction "foo(x) \x7b function() \x7b".toList = true ∧
      bindsFunction "foo(x) \x7b function() \x7b".toList = false := by
  have hnamed : opensNamedFunction "foo(x) \x7b".toList = true := by decide +kernel
  have hlost : opensNamedFunction "foo(x) \x7b function() \x7b".toList = false := by
    decide +kernel
  exact ⟨hnamed, hlost,
    (outline_embedded [] "foo(x) \x7b".toList " function() \x7b".toList).2.1 hnamed hlost⟩

end Line

end SourceLine
