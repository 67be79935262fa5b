import Mathlib.Data.List.Infix
import SourceLine.Proofs.Line.Declared
import SourceLine.Proofs.Line.Embedding
import SourceLine.Proofs.Shape.Matches
import SourceLine.Proofs.Text.Break

/-!
# Places of a function's name

A line gives the name of a function exactly if it has parameters in parentheses. What stands
before the first of them has an assignment or has none, which decides between the places before
the assignment and before the parameters; the place after the keyword comes before both, and a
line that has it has parameters as well.
-/

namespace SourceLine

/-- Every shape that needs a parenthesis has parameters on one line. -/
theorem Shape.exists_parameters {s : Shape} {t : Text} (hs : s.pattern.demands '(' = true)
    (ht : s.pattern.Language t) : ∃ a x b, t = a ++ '(' :: x ++ ')' :: b ∧ '\n' ∉ x := by
  cases s with
  | classHeader | bindingNoise => cases hs
  | typedHeader =>
    obtain ⟨n, x, y, -, hx, -, rfl⟩ := denotes_typedHeader.1 ht
    exact ⟨n, x, y ++ ['{'], by simp, fun hfeed => absurd (hx.1 _ hfeed) (by decide)⟩
  | boundFunction =>
    obtain ⟨n, w, v, f, u, m, z, x, y, r, b, -, -, -, -, -, -, -, -, hx, -, -, -, rfl⟩ :=
      language_boundFunction.1 ht
    exact ⟨n ++ w ++ '=' :: (v ++ f ++ u ++ m ++ z), x, y ++ r ++ b ++ ['{'], by simp, hx⟩
  | anonymousFunction | control | keywordFunction =>
    obtain ⟨u, x, w, -, hx, -, rfl⟩ := (language_opening rfl).1 ht
    exact ⟨u, x, w ++ ['{'], by simp, hx⟩
  | parameters =>
    obtain ⟨x, hx, rfl⟩ := denotes_parenthesized.1 ht
    exact ⟨[], x, [], by simp, hx⟩

namespace Line

open NamePlace

/-- Parameters in parentheses, all on one line, stand right after `left`. -/
def ParametersAfter (line left : Text) : Prop :=
  ∃ x b, line = left ++ '(' :: x ++ ')' :: b ∧ '\n' ∉ x

/-- The text `left` is what stands before the first parameters. -/
def FirstParametersAfter (line left : Text) : Prop :=
  ParametersAfter line left ∧ ∀ a, ParametersAfter line a → left.length ≤ a.length

variable {line left : Text} {found : PlacedName}

theorem startsAfter_parameters_iff :
    Shape.parameters.pattern.StartsAfter line left ↔ ParametersAfter line left := by
  constructor
  · intro h
    obtain ⟨_, rfl, _, b, rfl, ht⟩ := h
    obtain ⟨x, hx, rfl⟩ := Shape.denotes_parenthesized.1 ht
    exact ⟨x, b, by simp, hx⟩
  · intro h
    obtain ⟨x, b, rfl, hx⟩ := h
    exact ⟨'(' :: x ++ ')' :: b, by simp, '(' :: x ++ [')'], b, by simp,
      Shape.denotes_parenthesized.2 ⟨x, hx, rfl⟩⟩

theorem beforeParameters?_eq_some_iff :
    beforeParameters? line = some left ↔ FirstParametersAfter line left := by
  rw [beforeParameters?, Shape.parameters.settled.before?_eq_some_iff]
  simp only [startsAfter_parameters_iff, FirstParametersAfter]

theorem isSome_beforeParameters?_iff :
    (beforeParameters? line).isSome ↔ ∃ left, ParametersAfter line left := by
  rw [beforeParameters?, Shape.parameters.settled.isSome_before?_iff]
  simp only [startsAfter_parameters_iff]

theorem exists_parametersAfter {s : Shape} (hs : s.pattern.demands '(' = true)
    (h : s.occursIn line = true) : ∃ left, ParametersAfter line left := by
  obtain ⟨p, t, q, rfl, ht⟩ := Shape.occursIn_iff_language.1 h
  obtain ⟨a, x, b, rfl, hx⟩ := Shape.exists_parameters hs ht
  exact ⟨p ++ a, x, b ++ q, by simp, hx⟩

/-! ## One place at a time -/

theorem isSome_afterKeyword_iff : (afterKeyword.placedNameIn? line).isSome ↔
    Shape.keywordFunction.occursIn line = true := by
  rw [placedNameIn?, Option.isSome_map, nameIn?]
  split <;> simp_all

theorem nameIn?_beforeAssignment (h : beforeParameters? line = some left) :
    beforeAssignment.nameIn? line = (Text.breakOn? ['='] left).map (boundName ·.1) := by
  rw [nameIn?, h]
  exact Option.map_eq_bind.symm

theorem isSome_beforeAssignment_iff (h : beforeParameters? line = some left) :
    (beforeAssignment.placedNameIn? line).isSome ↔ '=' ∈ left := by
  rw [placedNameIn?, nameIn?_beforeAssignment h, Option.isSome_map, Option.isSome_map,
    Text.isSome_breakOn?_iff]
  exact List.singleton_infix_iff ..

theorem isSome_beforeParameters_iff (h : beforeParameters? line = some left) :
    (beforeParameters.placedNameIn? line).isSome ↔ '=' ∉ left := by
  rw [placedNameIn?, Option.isSome_map, nameIn?, h]
  by_cases hassign : '=' ∈ left <;> simp [hassign]

/-- Of the two places left of the parameters, a line with parameters has exactly one. -/
theorem isSome_beforeAssignment_iff_not (h : ∃ left, ParametersAfter line left) :
    (beforeAssignment.placedNameIn? line).isSome ↔
      ¬ (beforeParameters.placedNameIn? line).isSome := by
  obtain ⟨left, hleft⟩ := Option.isSome_iff_exists.1 (isSome_beforeParameters?_iff.2 h)
  rw [isSome_beforeAssignment_iff hleft, isSome_beforeParameters_iff hleft, not_not]

theorem placedNameIn?_eq_none (h : ¬ ∃ left, ParametersAfter line left) (place : NamePlace) :
    place.placedNameIn? line = none := by
  have hbefore : beforeParameters? line = none := by
    rwa [← Option.not_isSome_iff_eq_none, isSome_beforeParameters?_iff]
  cases place with
  | afterKeyword =>
    rw [← Option.not_isSome_iff_eq_none, isSome_afterKeyword_iff]
    exact fun hkeyword => h (exists_parametersAfter (by decide) hkeyword)
  | beforeAssignment | beforeParameters => rw [placedNameIn?, nameIn?, hbefore]; rfl

theorem place_of_placedNameIn? {place : NamePlace} (h : place.placedNameIn? line = some found) :
    found.place = place := by
  obtain ⟨name, -, rfl⟩ := Option.map_eq_some_iff.1 h
  rfl

/-! ## The place that decides -/

theorem placedName?_eq : placedName? line = (afterKeyword.placedNameIn? line).or
    ((beforeAssignment.placedNameIn? line).or (beforeParameters.placedNameIn? line)) := by
  rw [placedName?, NamePlace.all]
  simp only [List.findSome?_cons, List.findSome?_nil]
  cases afterKeyword.placedNameIn? line <;> cases beforeAssignment.placedNameIn? line <;>
    cases beforeParameters.placedNameIn? line <;> rfl

theorem isSome_placedName?_iff :
    (placedName? line).isSome ↔ ∃ left, ParametersAfter line left := by
  constructor
  · intro h
    apply Classical.byContradiction
    intro hno
    have hnone := placedNameIn?_eq_none hno
    simp [placedName?_eq, hnone] at h
  · intro h
    have hone := isSome_beforeAssignment_iff_not h
    rw [placedName?_eq, Option.isSome_or, Option.isSome_or, Bool.or_eq_true, Bool.or_eq_true]
    right
    by_cases hparams : (beforeParameters.placedNameIn? line).isSome
    · exact .inr hparams
    · exact .inl (hone.2 hparams)

/-- The place of the name is the one after the keyword if the line has it, and otherwise the
only one that the line has. -/
theorem placedName?_eq_some (h : placedName? line = some found) :
    found.place.placedNameIn? line = some found ∧
      ((afterKeyword.placedNameIn? line).isSome → found.place = afterKeyword) ∧
      (afterKeyword.placedNameIn? line = none →
        ∀ place : NamePlace, (place.placedNameIn? line).isSome ↔ place = found.place) := by
  obtain ⟨place, -, hplace⟩ := List.exists_of_findSome?_eq_some h
  obtain rfl := place_of_placedNameIn? hplace
  refine ⟨hplace, ?_, ?_⟩
  · intro hkeyword
    obtain ⟨first, hfirst⟩ := Option.isSome_iff_exists.1 hkeyword
    rw [placedName?_eq, hfirst, Option.some_or] at h
    cases h
    exact place_of_placedNameIn? hfirst
  · intro hkeyword place
    refine ⟨fun hother => ?_, fun hother => ?_⟩
    · have hparams : ∃ left, ParametersAfter line left :=
        isSome_placedName?_iff.1 (Option.isSome_iff_exists.2 ⟨found, h⟩)
      have hone := isSome_beforeAssignment_iff_not hparams
      have hfound : (found.place.placedNameIn? line).isSome :=
        Option.isSome_iff_exists.2 ⟨_, hplace⟩
      -- the place after the keyword is ruled out, and the line has not both of the others
      generalize found.place = p at hfound
      cases place <;> cases p <;> simp_all
    · subst hother
      exact Option.isSome_iff_exists.2 ⟨found, hplace⟩

/-- The places of a function's name in a line, for every line. It gives a name exactly if a
parenthesis is closed on its own line; then exactly one of the places before the assignment and
before the parameters is there, by whether an assignment stands before the first parameters.
Every line that opens a function or a control statement gives a name, if perhaps an empty one. -/
theorem placedName?_places (line : Text) :
    ((placedName? line).isSome ↔ ∃ left, ParametersAfter line left) ∧
    ((∃ left, ParametersAfter line left) →
      ((beforeAssignment.placedNameIn? line).isSome ↔
        ¬ (beforeParameters.placedNameIn? line).isSome)) ∧
    (∀ left, FirstParametersAfter line left →
      ((beforeAssignment.placedNameIn? line).isSome ↔ '=' ∈ left)) ∧
    ((¬ ∃ left, ParametersAfter line left) →
      ∀ place : NamePlace, place.placedNameIn? line = none) ∧
    (∀ found, placedName? line = some found → found.place.placedNameIn? line = some found ∧
      ((afterKeyword.placedNameIn? line).isSome → found.place = afterKeyword) ∧
      (afterKeyword.placedNameIn? line = none →
        ∀ place : NamePlace, (place.placedNameIn? line).isSome ↔ place = found.place)) ∧
    (opensNamedFunction line = true ∨ opensControl line = true ∨
      opensAnonymousFunction line = true → (placedName? line).isSome) ∧
    (∀ c l, declaredFunction line = .error (.nameless c l) → ∃ place : NamePlace,
      placedName? line = some ⟨place, []⟩ ∧ place.placedNameIn? line = some ⟨place, []⟩) := by
  have hopens : opensNamedFunction line = true ∨ opensControl line = true ∨
      opensAnonymousFunction line = true → (placedName? line).isSome := by
    intro h
    rw [isSome_placedName?_iff]
    rcases h with h | h | h
    · rcases hasTypedHeader_or_bindsFunction h with h | h
      · exact exists_parametersAfter (s := .typedHeader) (by decide) h
      · exact exists_parametersAfter (s := .boundFunction) (by decide) h
    · exact exists_parametersAfter (s := .control) (by decide) h
    · exact exists_parametersAfter (s := .anonymousFunction) (by decide) h
  refine ⟨isSome_placedName?_iff, isSome_beforeAssignment_iff_not, ?_, placedNameIn?_eq_none,
    fun found => placedName?_eq_some, hopens, ?_⟩
  · intro left hleft
    exact isSome_beforeAssignment_iff (beforeParameters?_eq_some_iff.2 hleft)
  · intro c l h
    obtain ⟨hnamed, hname⟩ : opensNamedFunction line = true ∧ functionName line = [] := by
      rcases declared_eq_error_iff.1 h with ⟨-, h⟩ | ⟨hnamed, hname, -⟩
      · cases h
      · exact ⟨hnamed, hname⟩
    obtain ⟨⟨place, name⟩, hfound⟩ := Option.isSome_iff_exists.1 (hopens (.inl hnamed))
    obtain rfl : name = [] := by simpa [functionName, hfound] using hname
    exact ⟨place, hfound, (placedName?_eq_some hfound).1⟩

theorem placedName?_places_feed :
    FirstParametersAfter "a(\nb = (c)".toList "a(\nb = ".toList ∧
      (beforeAssignment.placedNameIn? "a(\nb = (c)".toList).isSome ∧
      ¬ (beforeParameters.placedNameIn? "a(\nb = (c)".toList).isSome := by
  have hfirst : FirstParametersAfter "a(\nb = (c)".toList "a(\nb = ".toList :=
    beforeParameters?_eq_some_iff.1 (by decide)
  obtain ⟨-, hone, hassign, -⟩ := placedName?_places "a(\nb = (c)".toList
  have hplace := (hassign _ hfirst).2 (by decide)
  exact ⟨hfirst, hplace, (hone ⟨_, hfirst.1⟩).1 hplace⟩

end Line

end SourceLine
