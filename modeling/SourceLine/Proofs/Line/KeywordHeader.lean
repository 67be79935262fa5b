import SourceLine.Line.Declared
import SourceLine.Proofs.Line.KeywordFunction

/-!
# Headers with the keyword

The header `function name(..) {` is read by three shapes that do not agree on what a name is.
The typed header takes letters, digits and underscores, the shape of the keyword letters only,
and that of anonymous functions does not look at what stands before the keyword. So a name with
a digit or an underscore is reported with the keyword in front of it, and a name that ends with
the keyword is taken for an anonymous function. All other names are declared as they stand.
-/

namespace SourceLine.Line

open Pattern Shape

/-- The header `function name(params) {`. -/
def keywordHeader (name params : Text) : Text :=
  header ("function ".toList ++ name) params [' ']

variable {name params : Text}

theorem occursIn_keywordHeader (hname : Name .word name) (hparams : Typed params) :
    keywordFunction.occursIn (keywordHeader name params) = name.all CharSet.letter.contains := by
  rw [Bool.eq_iff_iff, List.all_eq_true, keywordHeader,
    occursIn_keywordFunction_header hname (by decide) hparams typed_space,
    and_iff_left untyped_space]
  constructor
  · intro h
    obtain ⟨w, n, hw, hw', hn, hn', a, h⟩ := h
    obtain ⟨w, d, rfl⟩ := (List.eq_nil_or_concat w).resolve_left hw
    have hd := hw' d (by simp)
    -- the blank `d` is not in the name, so the letters cover all of it
    have h : (a ++ "function".toList ++ w) ++ ([d] ++ n) = "function ".toList ++ name := by
      simpa using h
    rcases List.append_eq_append_iff.1 h with ⟨x, -, hx⟩ | ⟨x, -, hx⟩
    · cases x with
      | nil =>
        have : d ∈ name := by simp [← show [d] ++ n = name by simpa using hx]
        exact absurd hd (CharSet.not_mem_blank_of_mem_word (hname.mem d this))
      | cons e x =>
        obtain ⟨rfl, rfl⟩ := List.cons_eq_cons.1 hx
        exact fun c hc => hn' c (by simp [hc])
    · have : d ∈ name := by simp [hx]
      exact absurd hd (CharSet.not_mem_blank_of_mem_word (hname.mem d this))
  · intro h
    have hblank : ∀ c ∈ [' '], c ∈ CharSet.blank := CharSet.forall_mem_of_all (by decide)
    exact ⟨[' '], name, by simp, hblank, hname.ne_nil, h, [], by simp⟩

theorem opensNamedFunction_keywordHeader_iff (hname : Name .word name) (hparams : Typed params) :
    opensNamedFunction (keywordHeader name params) = true ↔ ¬ "function".toList <:+ name := by
  have hsuffix : "function".toList <:+ "function ".toList ++ name ↔ "function".toList <:+ name :=
    Text.suffix_append_cons_iff (a := "function".toList) (c := ' ') (by decide)
  rw [keywordHeader, opensNamedFunction_header hname (by decide) hparams typed_space,
    Bool.not_eq_true', ← Bool.not_eq_true,
    opensAnonymousFunction_header hname (by decide) hparams typed_space,
    and_iff_left untyped_space, hsuffix]

theorem nameAfterKeyword_keywordHeader (hname : Name .word name) :
    nameAfterKeyword (keywordHeader name params) = name := by
  have hnone : Text.Blank [] := by simp [Text.Blank]
  have hline : keywordHeader name params =
      [] ++ ("function ".toList ++ ([] ++ name ++ [] ++ '(' :: (params ++ [')', ' ', '{']))) := by
    simp [keywordHeader, header]
  rw [hline, nameAfterKeyword_append (by decide) hnone hname.mem hnone]
  simp

theorem functionName_keywordHeader (hname : Name .word name) (hparams : Typed params) :
    functionName (keywordHeader name params) =
      if name.all CharSet.letter.contains then name else "function".toList ++ name := by
  have hoccurs := occursIn_keywordHeader hname hparams
  split
  next h =>
    have hplaced : placedName? (keywordHeader name params) = some ⟨.afterKeyword, name⟩ := by
      simp [placedName?, NamePlace.all, NamePlace.placedNameIn?, NamePlace.nameIn?, hoccurs, h,
        nameAfterKeyword_keywordHeader hname]
    rw [functionName, hplaced]
    rfl
  next h =>
    have hkeyword := hoccurs.trans (Bool.eq_false_iff.2 h)
    have hopen : '(' ∉ "function ".toList ++ name := paren_notMem_name hname (by decide)
    have hassign : '=' ∉ "function ".toList ++ name := by
      have hname' : '=' ∉ name := hname.notMem
      simp [hname']
    rw [keywordHeader] at hkeyword ⊢
    rw [functionName, placedName?_header hopen hassign hparams hkeyword, Text.withoutBlanks,
      List.filter_append]
    exact congrArg ("function".toList ++ ·) (Text.withoutBlanks_of_word hname.mem)

theorem functionName_keywordHeader_eq_iff (hname : Name .word name) (hparams : Typed params) :
    functionName (keywordHeader name params) = name ↔ name.all CharSet.letter.contains = true := by
  rw [functionName_keywordHeader hname hparams]
  split
  next h => exact iff_of_true rfl h
  next h =>
    refine iff_of_false (fun heq => ?_) h
    exact absurd (List.append_left_eq_self.1 heq) (by decide)

/-- The names that the header with the keyword declares, and what becomes of the others. -/
theorem declaredFunction_keywordHeader (hname : Name .word name) (hparams : Typed params) :
    (opensNamedFunction (keywordHeader name params) = true ↔ ¬ "function".toList <:+ name) ∧
      functionName (keywordHeader name params) =
        (if name.all CharSet.letter.contains then name else "function".toList ++ name) ∧
      (declaredFunction (keywordHeader name params) = .ok name ↔
        name.all CharSet.letter.contains = true ∧ ¬ "function".toList <:+ name) := by
  have hopens := opensNamedFunction_keywordHeader_iff hname hparams
  have hfound := functionName_keywordHeader_eq_iff hname hparams
  refine ⟨hopens, functionName_keywordHeader hname hparams, ?_⟩
  rw [← hopens, ← hfound, declaredFunction, declared]
  constructor
  · intro h
    split_ifs at h with hno
    exact ⟨Except.ok.inj h, by simpa using hno⟩
  · intro h
    obtain ⟨hfound, hopens⟩ := h
    rw [hopens, hfound]
    simp [hname.ne_nil]

theorem declaredFunction_keywordHeader_functional :
    Name .word "functional".toList ∧ Typed "a, b".toList ∧
      declaredFunction "function functional(a, b) \x7b".toList = .ok "functional".toList := by
  have hname : Name .word "functional".toList := by decide
  have hparams : Typed "a, b".toList := by decide
  have hline : "function functional(a, b) \x7b".toList =
      keywordHeader "functional".toList "a, b".toList := by decide
  refine ⟨hname, hparams, ?_⟩
  rw [hline]
  exact (declaredFunction_keywordHeader hname hparams).2.2.2 ⟨by decide, by decide⟩

set_option maxRecDepth 4096 in
theorem keywordHeader_misread :
    opensNamedFunction "function xfunction(a, b) \x7b".toList = false ∧
      functionName "function foo1(a) \x7b".toList = "functionfoo1".toList := by
  decide +kernel

end SourceLine.Line
