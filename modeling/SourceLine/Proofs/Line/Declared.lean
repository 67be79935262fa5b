import Mathlib.Data.List.TakeWhile
import SourceLine.Line.Declared
import SourceLine.Proofs.Line.BindingWords
import SourceLine.Proofs.Line.Constructs

/-!
# Names in the outline and declared names

The outline names the first construct of a line, the strict functions name the construct that is
wanted. They agree: where a line opens several constructs, the first of them is a class if there
is one, and a named function if there is one and no class. The names have no blanks, whatever
place they are taken from.
-/

namespace SourceLine.Line

open Construct

variable {wanted : Construct} {opened : Bool} {name line n : Text} {o : Outline.Options}

/-! ## Names without blanks -/

theorem not_blank_of_mem_withoutBlanks {c : Char} {t : Text} (h : c ∈ Text.withoutBlanks t) :
    c ∉ CharSet.blank := by
  have := (List.mem_filter.1 h).2
  simpa using this

theorem not_blank_of_mem_className {c : Char} (h : c ∈ className line) : c ∉ CharSet.blank := by
  rw [className] at h
  split at h
  next rest _ =>
    have hword : c ∈ Text.firstWord rest := by
      have := (List.dropWhile_suffix _).subset (List.mem_reverse.1 h)
      exact List.mem_reverse.1 this
    have := List.mem_takeWhile_imp hword
    simpa using this
  · cases h

theorem not_blank_of_mem_nameAfterKeyword {c : Char} (h : c ∈ nameAfterKeyword line) :
    c ∉ CharSet.blank := by
  rw [nameAfterKeyword] at h
  split at h
  next => exact not_blank_of_mem_withoutBlanks h
  next => cases h

theorem not_blank_of_nameIn? {place : NamePlace} (hname : place.nameIn? line = some name)
    {c : Char} (h : c ∈ name) : c ∉ CharSet.blank := by
  cases place with
  | afterKeyword =>
    rw [NamePlace.nameIn?] at hname
    split at hname
    next => cases hname; exact not_blank_of_mem_nameAfterKeyword h
    next => cases hname
  | beforeAssignment =>
    obtain ⟨left, -, hname⟩ := Option.bind_eq_some_iff.1 hname
    obtain ⟨_, -, hname⟩ := Option.bind_eq_some_iff.1 hname
    cases hname
    exact (not_noise_of_mem_boundName h).1
  | beforeParameters =>
    obtain ⟨left, -, hname⟩ := Option.bind_eq_some_iff.1 hname
    split at hname
    next => cases hname
    next => cases hname; exact not_blank_of_mem_withoutBlanks h

theorem not_blank_of_mem_functionName {c : Char} (h : c ∈ functionName line) :
    c ∉ CharSet.blank := by
  rw [functionName] at h
  cases hplaced : placedName? line with
  | none => simp [hplaced] at h
  | some found =>
    obtain ⟨place, -, hfound⟩ := List.exists_of_findSome?_eq_some hplaced
    obtain ⟨name, hname, rfl⟩ := Option.map_eq_some_iff.1 hfound
    rw [hplaced] at h
    exact not_blank_of_nameIn? hname h

/-! ## Strict names -/

theorem declared_eq_error_iff {e : Error} : declared wanted opened name line = .error e ↔
    opened = false ∧ e = .notOpened wanted line ∨
      opened = true ∧ name = [] ∧ e = .nameless wanted line := by
  cases opened <;> cases name <;> simp [declared, eq_comm]

theorem declared_eq_ok_iff : declared wanted opened name line = .ok n ↔
    opened = true ∧ n ≠ [] ∧ name = n := by
  cases opened with
  | false => simp [declared]
  | true =>
    cases name with
    | nil => simp [declared, eq_comm]
    | cons c t =>
      simp only [declared, Bool.not_true, Bool.false_eq_true, if_false, List.isEmpty_cons,
        Except.ok.injEq, true_and]
      exact ⟨fun h => ⟨h ▸ List.cons_ne_nil c t, h⟩, And.right⟩

theorem toOption_declaredClass (h : opensClass line = true) :
    (declaredClass line).toOption = nameOf? line classHeader := by
  rw [declaredClass, declared, h, nameOf?]
  cases className line <;> rfl

theorem toOption_declaredFunction : (declaredFunction line).toOption =
    if opensNamedFunction line then nameOf? line namedFunction else none := by
  rw [declaredFunction, declared, nameOf?]
  cases opensNamedFunction line <;> cases functionName line <;> rfl

/-! ## The name in an outline -/

theorem opens_namedFunction_of_boundFunction {controlWins : Bool}
    (h : opens controlWins line boundFunction = true) :
    opens controlWins line namedFunction = true := by
  simp only [opens, Bool.and_eq_true] at h ⊢
  exact ⟨h.1, opensNamedFunction_of_bindsFunction h.2⟩

/-- Only classes and named functions have names, and a class comes first. -/
theorem name_head?_constructs : (outline line o).constructs.head?.bind (nameOf? line) =
    if opens o.controlWins line classHeader then nameOf? line classHeader
    else if opens o.controlWins line namedFunction then nameOf? line namedFunction
    else none := by
  rw [outline, List.head?_filter]
  simp only [Construct.opened, List.find?_cons, List.find?_nil]
  cases opens o.controlWins line classHeader with
  | true => rfl
  | false =>
    cases hnamed : opens o.controlWins line namedFunction with
    | true => rfl
    | false =>
      have hbound : opens o.controlWins line boundFunction = false := by
        apply Bool.eq_false_iff.2
        intro h
        rw [opens_namedFunction_of_boundFunction h] at hnamed
        cases hnamed
      rw [hbound]
      cases opens o.controlWins line anonymousFunction <;>
        cases opens o.controlWins line Construct.control <;> rfl

theorem name_outline : (outline line o).name =
    if o.names = false then none
    else if opensClass line then (declaredClass line).toOption
    else if o.controlWins && opensControl line then none
    else (declaredFunction line).toOption := by
  have hname : (outline line o).name =
      if o.names then (outline line o).constructs.head?.bind (nameOf? line) else none := rfl
  have hclass : opens o.controlWins line classHeader = opensClass line := rfl
  have hnamed : opens o.controlWins line namedFunction =
      (!(o.controlWins && opensControl line) && opensNamedFunction line) := rfl
  rw [hname, name_head?_constructs, hclass, hnamed, toOption_declaredFunction]
  cases o.names with
  | false => rfl
  | true =>
    cases h : opensClass line with
    | true => exact (toOption_declaredClass h).symm
    | false =>
      cases o.controlWins && opensControl line <;> rfl

/-- The outline and the strict functions give the same names. A strict function fails exactly if
the line does not open the construct or shows no name for it, and says which and of what line. -/
theorem outline_name_declared (line : Text) (o : Outline.Options) :
    (outline line o).name =
      (if o.names = false then none
      else if opensClass line then (declaredClass line).toOption
      else if o.controlWins && opensControl line then none
      else (declaredFunction line).toOption) ∧
    (∀ e, declaredClass line = .error e ↔
      classHeader ∉ (outline line).constructs ∧ e = .notOpened classHeader line ∨
        classHeader ∈ (outline line).constructs ∧ className line = [] ∧
          e = .nameless classHeader line) ∧
    (∀ e, declaredFunction line = .error e ↔
      namedFunction ∉ (outline line).constructs ∧ e = .notOpened namedFunction line ∨
        namedFunction ∈ (outline line).constructs ∧ functionName line = [] ∧
          e = .nameless namedFunction line) ∧
    (∀ name, declaredClass line = .ok name ↔
      classHeader ∈ (outline line).constructs ∧ name ≠ [] ∧ className line = name) ∧
    (∀ name, declaredFunction line = .ok name ↔
      namedFunction ∈ (outline line).constructs ∧ name ≠ [] ∧ functionName line = name) ∧
    (∀ name, declaredClass line = .ok name ∨ declaredFunction line = .ok name →
      name ≠ [] ∧ ∀ c ∈ name, c ∉ CharSet.blank) := by
  have hclass : classHeader ∈ (outline line).constructs ↔ opensClass line = true := mem_constructs
  have hfunction : namedFunction ∈ (outline line).constructs ↔ opensNamedFunction line = true :=
    mem_constructs
  simp only [hclass, hfunction, Bool.not_eq_true]
  refine ⟨name_outline, fun _ => declared_eq_error_iff, fun _ => declared_eq_error_iff,
    fun _ => declared_eq_ok_iff, fun _ => declared_eq_ok_iff, ?_⟩
  intro name h
  rcases h with h | h
  · obtain ⟨-, hne, rfl⟩ := declared_eq_ok_iff.1 h
    exact ⟨hne, fun c => not_blank_of_mem_className⟩
  · obtain ⟨-, hne, rfl⟩ := declared_eq_ok_iff.1 h
    exact ⟨hne, fun c => not_blank_of_mem_functionName⟩

end SourceLine.Line
