import Mathlib.Data.List.Sublists
import SourceLine.Line.Outline

/-!
# Constructs that a line opens together

The constructs of an outline come in the order of `Construct.opened`, a bound function is also
reported as a named one, and an anonymous function excludes both. Where control statements win,
they take the named and bound functions away and nothing else. There is no further rule: each of
the sixteen lists that obey these is the outline of some line.
-/

namespace SourceLine

namespace Construct

/-- The lists that obey the rules between named, bound and anonymous functions. -/
structure Compatible (l : List Construct) : Prop where
  sublist : l.Sublist opened
  named : boundFunction ∈ l → namedFunction ∈ l
  unnamed : anonymousFunction ∈ l → namedFunction ∉ l ∧ boundFunction ∉ l

def classParts : List (List Construct) := [[], [classHeader]]

def functionParts : List (List Construct) :=
  [[], [namedFunction], [namedFunction, boundFunction], [anonymousFunction]]

def controlParts : List (List Construct) := [[], [control]]

theorem Compatible.exists_parts {l : List Construct} (h : Compatible l) :
    ∃ c ∈ classParts, ∃ f ∈ functionParts, ∃ k ∈ controlParts, l = c ++ f ++ k := by
  have hall : ∀ l ∈ opened.sublists, (boundFunction ∈ l → namedFunction ∈ l) →
      (anonymousFunction ∈ l → namedFunction ∉ l ∧ boundFunction ∉ l) →
      ∃ c ∈ classParts, ∃ f ∈ functionParts, ∃ k ∈ controlParts, l = c ++ f ++ k := by
    decide +kernel
  exact hall l (List.mem_sublists.2 h.sublist) h.named h.unnamed

theorem Compatible.length_le {l : List Construct} (h : Compatible l) : l.length ≤ 4 := by
  have hall : ∀ c ∈ classParts, ∀ f ∈ functionParts, ∀ k ∈ controlParts,
      (c ++ f ++ k).length ≤ 4 := by decide
  obtain ⟨c, hc, f, hf, k, hk, rfl⟩ := h.exists_parts
  exact hall c hc f hf k hk

/-- A text that opens exactly the constructs of a part. -/
def sample (part : List Construct) : Text :=
  if part = [classHeader] then "class A \x7b".toList
  else if part = [namedFunction] then "f() \x7b".toList
  else if part = [namedFunction, boundFunction] then "f=() \x7b".toList
  else if part = [anonymousFunction] then "function() \x7b".toList
  else if part = [control] then "if () \x7b".toList
  else []

end Construct

namespace Line

open Construct

variable {line : Text} {o : Outline.Options}

theorem mem_constructs {c : Construct} :
    c ∈ (outline line o).constructs ↔ opens o.controlWins line c = true := by
  have hall : opens o.controlWins line c = true → c ∈ opened := by
    intro h
    cases c with
    | nothing => cases h
    | _ => decide
  simp only [outline, List.mem_filter]
  exact ⟨fun h => h.2, fun h => ⟨hall h, h⟩⟩

theorem opensNamedFunction_of_bindsFunction (h : bindsFunction line = true) :
    opensNamedFunction line = true := by
  simp [opensNamedFunction, h]

theorem opens_anonymousFunction {controlWins : Bool} :
    opens controlWins line .anonymousFunction = true ↔
      opensAnonymousFunction line = true ∧ bindsFunction line = false := by
  simp only [opens, opensNamedFunction]
  cases opensAnonymousFunction line <;> simp

theorem compatible_outline (line : Text) (o : Outline.Options) :
    Compatible (outline line o).constructs where
  sublist := List.filter_sublist
  named h := by
    simp only [mem_constructs, opens, Bool.and_eq_true] at h ⊢
    exact ⟨h.1, opensNamedFunction_of_bindsFunction h.2⟩
  unnamed h := by
    have hnamed : opensNamedFunction line = false := by
      simp only [mem_constructs, opens, Bool.and_eq_true, Bool.not_eq_true'] at h
      exact h.1
    have hbinds : bindsFunction line = false := (opens_anonymousFunction.1 (mem_constructs.1 h)).2
    constructor <;> simp [mem_constructs, opens, hnamed, hbinds]

/-- The outline by default, part by part. -/
theorem constructs_default (line : Text) : (outline line).constructs =
    (if opensClass line then [classHeader] else []) ++
    (if opensNamedFunction line then
        namedFunction :: if bindsFunction line then [boundFunction] else []
      else if opensAnonymousFunction line then [anonymousFunction] else []) ++
    (if opensControl line then [control] else []) := by
  have hfunctions : [namedFunction, boundFunction, anonymousFunction].filter (opens false line) =
      if opensNamedFunction line then
        namedFunction :: if bindsFunction line then [boundFunction] else []
      else if opensAnonymousFunction line then [anonymousFunction] else [] := by
    have hbound := @opensNamedFunction_of_bindsFunction line
    cases hnamed : opensNamedFunction line <;> cases hbinds : bindsFunction line <;>
      simp_all [List.filter_cons, opens]
  have hopened : opened =
      [classHeader] ++ [namedFunction, boundFunction, anonymousFunction] ++ [control] := rfl
  have hclass : [classHeader].filter (opens false line) =
      if opensClass line then [classHeader] else [] := List.filter_cons
  have hcontrol : [control].filter (opens false line) =
      if opensControl line then [control] else [] := List.filter_cons
  simp only [outline, hopened, List.filter_append, hclass, hfunctions, hcontrol]

theorem constructs_eq : (outline line o).constructs =
    if o.controlWins && opensControl line then
      (outline line).constructs.filter fun c => c ≠ namedFunction ∧ c ≠ boundFunction
    else (outline line).constructs := by
  split
  next h =>
    simp only [Bool.and_eq_true] at h
    simp only [outline, List.filter_filter]
    apply List.filter_congr
    intro c _
    cases c <;> simp [opens, h]
  next h =>
    simp only [outline]
    apply List.filter_congr
    intro c _
    cases c <;> simp [opens, h]

set_option maxRecDepth 4096 in
theorem constructs_sample : ∀ c ∈ classParts, ∀ f ∈ functionParts, ∀ k ∈ controlParts,
    (outline (sample c ++ sample f ++ sample k)).constructs = c ++ f ++ k := by
  decide +kernel

/-- A part that starts with a bound function is none. -/
theorem primary_ne_boundFunction : (outline line o).primary ≠ boundFunction := by
  have hall : ∀ c ∈ classParts, ∀ f ∈ functionParts, ∀ k ∈ controlParts,
      (c ++ f ++ k).headD nothing ≠ boundFunction := by decide
  obtain ⟨c, hc, f, hf, k, hk, h⟩ := (compatible_outline line o).exists_parts
  rw [Outline.primary, h]
  exact hall c hc f hf k hk

/-- The constructs of an outline, for every line and all options; and the lists that occur for
the options by default. -/
theorem outline_constructs :
    (∀ line o, (outline line o).constructs.Sublist opened ∧ (outline line o).constructs.Nodup ∧
      nothing ∉ (outline line o).constructs ∧ (outline line o).constructs.length ≤ 4 ∧
      (boundFunction ∈ (outline line o).constructs →
        namedFunction ∈ (outline line o).constructs) ∧
      (outline line o).primary ≠ boundFunction ∧
      (anonymousFunction ∈ (outline line o).constructs →
        namedFunction ∉ (outline line o).constructs ∧
        boundFunction ∉ (outline line o).constructs) ∧
      (anonymousFunction ∈ (outline line o).constructs ↔
        opensAnonymousFunction line = true ∧ bindsFunction line = false) ∧
      (∀ names, (outline line { o with names }).constructs = (outline line o).constructs) ∧
      (outline line o).constructs =
        if o.controlWins && opensControl line then
          (outline line).constructs.filter fun c => c ≠ namedFunction ∧ c ≠ boundFunction
        else (outline line).constructs) ∧
    (∀ l, (∃ line, (outline line).constructs = l) ↔
      ∃ c ∈ [[], [classHeader]],
      ∃ f ∈ [[], [namedFunction], [namedFunction, boundFunction], [anonymousFunction]],
      ∃ k ∈ [[], [control]], l = c ++ f ++ k) := by
  constructor
  · intro line o
    have hcompatible := compatible_outline line o
    have hnodup : (outline line o).constructs.Nodup := hcompatible.sublist.nodup (by decide)
    have hnothing : nothing ∉ (outline line o).constructs := by
      intro h
      exact absurd (hcompatible.sublist.subset h) (by decide)
    exact ⟨hcompatible.sublist, hnodup, hnothing, hcompatible.length_le, hcompatible.named,
      primary_ne_boundFunction, hcompatible.unnamed,
      mem_constructs.trans opens_anonymousFunction, fun _ => rfl, constructs_eq⟩
  · intro l
    constructor
    · intro h
      obtain ⟨line, rfl⟩ := h
      exact (compatible_outline line {}).exists_parts
    · intro h
      obtain ⟨c, hc, f, hf, k, hk, rfl⟩ := h
      exact ⟨_, constructs_sample c hc f hf k hk⟩

end Line

end SourceLine
