import SourceLine.Proofs.Line.Header
import SourceLine.Proofs.Line.NamePlaces

/-!
# Names of functions

The name of a function is what is left of one part of the line, which has no parenthesis and,
unless the keyword leads it, no assignment (`exists_part_functionName`). So a header made from the
name alone has its first parameters right after the name, and is read back as the same name. It
opens a named function exactly if the name ends like an identifier and not with the keyword.
-/

namespace SourceLine.Line

open Pattern Shape NamePlace Text

/-- A word without parentheses, perhaps the empty one. -/
structure FunctionWord (t : Text) : Prop where
  solid : ∀ c ∈ t, c ∉ CharSet.blank
  unopened : '(' ∉ t

/-- The header `name() {`. -/
def plainFunction (name : Text) : Text :=
  header name [] [' ']

variable {line left name : Text} {place : NamePlace}

/-! ## The part of the line that shows the name -/

/-- On a single line the first parenthesis opens the first parameters. -/
theorem paren_notMem_beforeParameters (hfeed : '\n' ∉ line)
    (h : beforeParameters? line = some left) : '(' ∉ left := by
  intro hparen
  obtain ⟨⟨x, b, rfl, -⟩, hfirst⟩ := beforeParameters?_eq_some_iff.1 h
  obtain ⟨u, v, rfl⟩ := List.append_of_mem hparen
  have hearlier : ParametersAfter (u ++ '(' :: v ++ '(' :: x ++ ')' :: b) u := by
    refine ⟨v ++ '(' :: x, b, by simp, fun hm => hfeed ?_⟩
    have hpart : v ++ '(' :: x <:+: u ++ '(' :: v ++ '(' :: x ++ ')' :: b :=
      ⟨u ++ ['('], ')' :: b, by simp⟩
    exact hpart.subset hm
  have hle := hfirst u hearlier
  simp only [List.length_append, List.length_cons] at hle
  omega

theorem infix_of_beforeParameters (h : beforeParameters? line = some left) : left <:+: line := by
  obtain ⟨⟨x, b, rfl, -⟩, -⟩ := beforeParameters?_eq_some_iff.1 h
  exact ⟨[], '(' :: x ++ ')' :: b, by simp⟩

theorem exists_part_nameAfterKeyword (line : Text) :
    ∃ t, t <:+: line ∧ (nameAfterKeyword line).Sublist t ∧ '(' ∉ t := by
  rw [nameAfterKeyword]
  split
  next before rest hbreak =>
    refine ⟨(upTo "function ".toList rest).takeWhile (· != '('), ?_, List.filter_sublist, ?_⟩
    · have hrest : rest <:+: line := by
        rw [eq_append_of_breakOn? hbreak]
        exact ⟨before ++ "function ".toList, [], by simp⟩
      exact ((List.takeWhile_prefix _).trans (prefix_upTo _ rest)).isInfix.trans hrest
    · intro hparen
      have := List.mem_takeWhile_imp hparen
      simp at this
  next => exact ⟨[], List.nil_infix, List.Sublist.refl [], List.not_mem_nil⟩

theorem exists_part_nameIn? (hfeed : '\n' ∉ line) (h : place.nameIn? line = some name) :
    ∃ t, t <:+: line ∧ name.Sublist t ∧ '(' ∉ t ∧ (place ≠ afterKeyword → '=' ∉ t) := by
  cases place with
  | afterKeyword =>
    rw [nameIn?] at h
    split at h
    next =>
      cases h
      obtain ⟨t, ht, hname, hparen⟩ := exists_part_nameAfterKeyword line
      exact ⟨t, ht, hname, hparen, fun hne => absurd rfl hne⟩
    next => cases h
  | beforeAssignment =>
    obtain ⟨left, hleft, h⟩ := Option.bind_eq_some_iff.1 h
    obtain ⟨⟨binding, value⟩, hbreak, h⟩ := Option.bind_eq_some_iff.1 h
    cases h
    have hparen := paren_notMem_beforeParameters hfeed hleft
    obtain ⟨hcut, hassign⟩ := breakOn?_singleton_iff.1 hbreak
    have hbinding : binding <+: left := ⟨_, hcut.symm⟩
    exact ⟨binding, hbinding.isInfix.trans (infix_of_beforeParameters hleft), erase_sublist _ _,
      fun hm => hparen (hbinding.subset hm), fun _ => hassign⟩
  | beforeParameters =>
    obtain ⟨left, hleft, h⟩ := Option.bind_eq_some_iff.1 h
    split at h
    next => cases h
    next hassign =>
      cases h
      exact ⟨left, infix_of_beforeParameters hleft, List.filter_sublist,
        paren_notMem_beforeParameters hfeed hleft, fun _ => hassign⟩

theorem exists_part_functionName (hfeed : '\n' ∉ line) :
    ∃ t, t <:+: line ∧ (functionName line).Sublist t ∧ '(' ∉ t ∧
      ∀ found, placedName? line = some found → found.place ≠ afterKeyword → '=' ∉ t := by
  rw [functionName]
  cases hplaced : placedName? line with
  | none =>
    refine ⟨[], List.nil_infix, List.Sublist.refl [], List.not_mem_nil, ?_⟩
    intro found h
    cases h
  | some found =>
    obtain ⟨place, -, hfound⟩ := List.exists_of_findSome?_eq_some hplaced
    obtain ⟨name, hname, rfl⟩ := Option.map_eq_some_iff.1 hfound
    obtain ⟨t, ht, hsub, hparen, hassign⟩ := exists_part_nameIn? hfeed hname
    refine ⟨t, ht, hsub, hparen, ?_⟩
    intro found h
    cases h
    exact hassign

theorem functionWord_functionName (hfeed : '\n' ∉ line) : FunctionWord (functionName line) := by
  obtain ⟨t, -, hsub, hparen, -⟩ := exists_part_functionName hfeed
  exact ⟨fun c => not_blank_of_mem_functionName, fun hm => hparen (hsub.subset hm)⟩

/-! ## The header made from a name -/

section
variable (hname : FunctionWord name)
include hname

theorem occursIn_keywordFunction_plainFunction :
    keywordFunction.occursIn (plainFunction name) = false := by
  apply Bool.eq_false_iff.2
  intro h
  let keyword := lit "function" ++ many1 .blank ++ many1 .letter ++ many .blank
  obtain ⟨⟨a, _, rfl, hu⟩, -⟩ :=
    (occursIn_header_iff hname.unopened typed_nil typed_space (p := keyword) rfl rfl).1 h
  obtain ⟨_, _, rfl, ⟨_, _, rfl, ⟨_, w, rfl, -, hw⟩, -⟩, -⟩ := hu
  obtain ⟨hne, hw⟩ := denotes_many1.1 hw
  obtain ⟨d, w, rfl⟩ := List.exists_cons_of_ne_nil hne
  exact hname.solid d (by simp) (hw d List.mem_cons_self)

theorem opensAnonymousFunction_plainFunction :
    opensAnonymousFunction (plainFunction name) = true ↔ "function".toList <:+ name := by
  rw [opensAnonymousFunction, plainFunction,
    occursIn_header_iff hname.unopened typed_nil typed_space (p := lit "function" ++ many .blank)
      rfl rfl]
  constructor
  · intro h
    obtain ⟨⟨a, _, rfl, _, w, rfl, rfl, hw⟩, -⟩ := h
    have hw := denotes_many.1 hw
    cases w with
    | nil => exact ⟨a, by simp⟩
    | cons d w => exact absurd (hw d List.mem_cons_self) (hname.solid d (by simp))
  · intro h
    obtain ⟨a, rfl⟩ := h
    refine ⟨⟨a, "function".toList, rfl, "function".toList, [], by simp, rfl, ?_⟩, untyped_space⟩
    exact denotes_many.2 (by simp)

section
variable (hassign : '=' ∉ name)
include hassign

theorem functionName_plainFunction : functionName (plainFunction name) = name := by
  have hplaced : placedName? (plainFunction name) = _ :=
    placedName?_header hname.unopened hassign typed_nil
      (occursIn_keywordFunction_plainFunction hname)
  have hsolid : withoutBlanks name = name := by
    apply List.filter_eq_self.2
    intro c hc
    simpa using hname.solid c hc
  rw [functionName, hplaced, hsolid]
  rfl

theorem opensNamedFunction_plainFunction_iff : opensNamedFunction (plainFunction name) = true ↔
    WordEnded name ∧ ¬ "function".toList <:+ name := by
  have hbinds : bindsFunction (plainFunction name) = false := by
    apply occursIn_eq_false (c := '=') rfl
    simp [plainFunction, header, hassign]
  rw [← opensAnonymousFunction_plainFunction hname,
    ← hasTypedHeader_header_iff hname.unopened typed_nil typed_space, ← plainFunction,
    opensNamedFunction, hbinds]
  simp

end

end

/-- The name of a function survives being written into a header and read again, for every single
line: the name is made of characters of the line in their order, has no blanks and no parenthesis,
and no assignment where the keyword does not lead it; without an assignment it is the name of the
header made from it, and whether that header opens a named function is seen at its end. -/
theorem functionName_rebuilt (hfeed : '\n' ∉ line) :
    (functionName line).Sublist line ∧ FunctionWord (functionName line) ∧
      (∀ found, placedName? line = some found → found.place ≠ afterKeyword →
        '=' ∉ functionName line) ∧
      ('=' ∉ functionName line →
        functionName (plainFunction (functionName line)) = functionName line ∧
          (opensNamedFunction (plainFunction (functionName line)) = true ↔
            WordEnded (functionName line) ∧
              ¬ "function".toList <:+ functionName line)) := by
  have hword := functionWord_functionName hfeed
  obtain ⟨t, ht, hsub, -, hassign⟩ := exists_part_functionName hfeed
  refine ⟨hsub.trans ht.sublist, hword, ?_, fun hassign => ⟨?_, ?_⟩⟩
  · intro found hplaced hplace hm
    exact hassign found hplaced hplace (hsub.subset hm)
  · exact functionName_plainFunction hword hassign
  · exact opensNamedFunction_plainFunction_iff hword hassign

set_option maxRecDepth 4096 in
theorem functionName_rebuilt_member :
    functionName "this.on Click = (e) => \x7b".toList = "this.onClick".toList ∧
      functionName (plainFunction "this.onClick".toList) = "this.onClick".toList ∧
      opensNamedFunction (plainFunction "this.onClick".toList) = true := by
  have hname : functionName "this.on Click = (e) => \x7b".toList = "this.onClick".toList := by
    decide +kernel
  have hfeed : '\n' ∉ "this.on Click = (e) => \x7b".toList := by decide
  obtain ⟨-, -, -, hrebuilt⟩ := functionName_rebuilt hfeed
  rw [hname] at hrebuilt
  obtain ⟨hread, hopens⟩ := hrebuilt (by decide)
  exact ⟨hname, hread, hopens.2 ⟨by decide, by decide⟩⟩

end SourceLine.Line
