import SourceLine.Line.Declared
import SourceLine.Proofs.Line.BoundName
import SourceLine.Proofs.Line.Constructs
import SourceLine.Proofs.Line.Header
import SourceLine.Proofs.Line.NamePlaces

/-!
# Functions bound to a name

A line such as `const name = (..) => {` binds a function, with blanks anywhere between its parts.
The keyword of functions can stand in it, but never with a name behind it, so the name is the one
before the assignment. It is given as it stands, unless the noise around it can be read at its
end too: a name that ends with a keyword of bindings loses this end if a space follows.
-/

namespace SourceLine.Line

open Shape Text

/-- A text of blanks. -/
abbrev Blanks := { t : Text // Blank t }

/-- A function bound to a name on one line, by its parts. -/
structure Binding where
  /-- The keyword of the binding. A space follows it. -/
  keyword : Text
  /-- Further blanks before the name. -/
  gap : Blanks
  name : Text
  beforeAssign : Blanks
  afterAssign : Blanks
  /-- The blanks after `function`, if that keyword is there. -/
  introduced : Option Blanks
  params : Text
  afterParams : Blanks
  /-- Whether there is an arrow. -/
  arrow : Bool
  beforeBrace : Blanks
  keyword_mem : keyword ∈ bindingKeywords
  lettered : Name .letter name
  feed_notMem : '\n' ∉ params
  not_function : ¬ "function".toList <:+: params

namespace Binding

/-- The text before the assignment. -/
def target (b : Binding) : Text :=
  b.keyword ++ ' ' :: b.gap.1 ++ b.name ++ b.beforeAssign.1

/-- The keyword of functions with the blanks after it. -/
def introduction (b : Binding) : Text :=
  match b.introduced with
  | none => []
  | some w => "function".toList ++ w.1

/-- What stands between the parameters and the brace. -/
def arrowPart (b : Binding) : Text :=
  b.afterParams.1 ++ (if b.arrow then "=>".toList else []) ++ b.beforeBrace.1

/-- The line of a binding. -/
def line (b : Binding) : Text :=
  header (b.target ++ '=' :: b.afterAssign.1 ++ b.introduction) b.params b.arrowPart

theorem exists_introduction (b : Binding) : ∃ f u, (f = "function".toList ∨ f = []) ∧ Blank u ∧
    b.introduction = f ++ u := by
  rw [introduction]
  cases b.introduced with
  | none => exact ⟨[], [], .inr rfl, fun c hc => absurd hc List.not_mem_nil, rfl⟩
  | some w => exact ⟨_, w.1, .inl rfl, w.2, rfl⟩

theorem exists_arrow (b : Binding) : ∃ r, (r = "=>".toList ∨ r = []) ∧
    b.arrowPart = b.afterParams.1 ++ r ++ b.beforeBrace.1 := by
  rw [arrowPart]
  cases b.arrow with
  | true => exact ⟨_, .inl rfl, rfl⟩
  | false => exact ⟨_, .inr rfl, rfl⟩

theorem bindsFunction_line (b : Binding) : bindsFunction b.line = true := by
  obtain ⟨f, u, hf, hu, hintroduction⟩ := b.exists_introduction
  obtain ⟨r, hr, harrow⟩ := b.exists_arrow
  refine occursIn_iff_language.2 ⟨b.keyword ++ ' ' :: b.gap.1, b.name ++ b.beforeAssign.1 ++
    '=' :: (b.afterAssign.1 ++ f ++ u ++ [] ++ []) ++ '(' :: b.params ++
    ')' :: (b.afterParams.1 ++ r ++ b.beforeBrace.1) ++ ['{'], [], ?_, ?_⟩
  · simp [line, header, target, hintroduction, harrow]
  · refine language_boundFunction.2 ⟨b.name, b.beforeAssign.1, b.afterAssign.1, f, u, [], [],
      b.params, b.afterParams.1, r, b.beforeBrace.1, b.lettered.ne_nil, b.lettered.mem,
      b.beforeAssign.2, b.afterAssign.2, hf, hu, ?_, ?_, b.feed_notMem, b.afterParams.2, hr,
      b.beforeBrace.2, rfl⟩
    · exact fun c hc => absurd hc List.not_mem_nil
    · exact fun c hc => absurd hc List.not_mem_nil

/-! ## The keyword of functions in a binding -/

section
variable {w : Text} {c : Char}

/-- Where a keyword and a letter stand between blanks around a text, they stand in the text. -/
theorem infix_between_iff (hc : c ∈ CharSet.letter) {x t y : Text} (hx : Blank x) (hy : Blank y) :
    "function".toList ++ w ++ [c] <:+: x ++ (t ++ y) ↔
      "function".toList ++ w ++ [c] <:+: t := by
  have hlast : c ∈ ("function".toList ++ w ++ [c]).getLast? := List.getLast?_concat
  have hy' : c ∉ y :=
    hy.notMem (CharSet.not_mem_blank_of_mem_word (CharSet.mem_word_of_mem_letter hc))
  rw [infix_append_iff_of_head (c := 'f') rfl hx.notMem, infix_append_iff_of_getLast hlast hy']

variable (hne : w ≠ []) (hw : Blank w)
include hne hw

/-- The keyword with a blank after it does not stand in a single word. -/
theorem not_infix_word {t : Text} (ht : ∀ d ∈ t, d ∈ CharSet.word) :
    ¬ "function".toList ++ w ++ [c] <:+: t := by
  intro h
  obtain ⟨d, w, rfl⟩ := List.exists_cons_of_ne_nil hne
  have hd : d ∈ t := h.subset (by simp)
  exact CharSet.not_mem_blank_of_mem_word (ht d hd) (hw d List.mem_cons_self)

/-- Before the assignment a letter or the end of the name follows the keyword. -/
theorem not_infix_target (hc : c ∈ CharSet.letter) (b : Binding) :
    ¬ "function".toList ++ w ++ [c] <:+: b.target := by
  intro h
  have hname : ∀ d ∈ b.name, d ∈ CharSet.word := b.lettered.toWord.mem
  have hkeyword : ∀ d ∈ b.keyword, d ∈ CharSet.word := fun d hd =>
    CharSet.mem_word_of_mem_letter ((letter_of_mem_bindingKeywords b.keyword_mem).2 d hd)
  have htarget : b.target = b.keyword ++ ' ' :: (b.gap.1 ++ (b.name ++ b.beforeAssign.1)) := by
    simp [target]
  rw [htarget] at h
  rcases infix_append_cons_cases.1 h with h | h | ⟨u, v, huv, hu, -⟩
  · exact not_infix_word hne hw hkeyword h
  · exact not_infix_word hne hw hname ((infix_between_iff hc b.gap.2 b.beforeAssign.2).1 h)
  · -- no keyword of bindings is as long as `function`
    have hpre : "function".toList <+: u ++ ' ' :: v := by
      rw [← huv, List.append_assoc]
      exact List.prefix_append ..
    have hlength := (prefix_of_prefix_append_cons hpre (by decide)).length_le
    have hshort : ∀ k ∈ bindingKeywords, k.length < "function".toList.length := by decide
    exact absurd (hlength.trans hu.length_le) (Nat.not_le.2 (hshort _ b.keyword_mem))

end

theorem occursIn_keywordFunction_line (b : Binding) : keywordFunction.occursIn b.line = false := by
  apply Bool.eq_false_iff.2
  intro h
  obtain ⟨x, t, y, hline, ht⟩ := occursIn_iff_language.1 h
  obtain ⟨w, n, v, z, u, hw, hw', hn, hn', -, -, -, rfl⟩ := language_keywordFunction.1 ht
  obtain ⟨c, n, rfl⟩ := List.exists_cons_of_ne_nil hn
  have hc := hn' c List.mem_cons_self
  have hstart : "function".toList ++ w ++ [c] <:+: b.line :=
    ⟨x, n ++ v ++ '(' :: z ++ ')' :: u ++ ['{'] ++ y, by rw [hline]; simp⟩
  have hword : ∀ e ∈ "function".toList, e ∈ CharSet.word := CharSet.forall_mem_of_all (by decide)
  have hassign := notMem_start (d := '=') hword hw' hc
  have hopen := notMem_start (d := '(') hword hw' hc
  have hclose := notMem_start (d := ')') hword hw' hc
  have hcut : b.line = b.target ++ '=' :: ((b.afterAssign.1 ++ b.introduction) ++
      '(' :: (b.params ++ ')' :: (b.arrowPart ++ ['{']))) := by simp [line, header]
  rw [hcut, infix_append_cons_iff hassign, infix_append_cons_iff hopen,
    infix_append_cons_iff hclose] at hstart
  rcases hstart with h | h | h | h
  · exact not_infix_target hw hw' hc b h
  · obtain ⟨f, u, hf, hu, hintroduction⟩ := b.exists_introduction
    have hf' : ∀ d ∈ f, d ∈ CharSet.word := by
      rcases hf with rfl | rfl
      · exact hword
      · exact fun d hd => absurd hd List.not_mem_nil
    rw [hintroduction, infix_between_iff hc b.afterAssign.2 hu] at h
    exact not_infix_word hw hw' hf' h
  · exact b.not_function (((List.prefix_append ..).trans (List.prefix_append ..)).isInfix.trans h)
  · obtain ⟨r, hr, harrow⟩ := b.exists_arrow
    have hf : 'f' ∈ b.arrowPart ++ ['{'] := h.subset (by simp)
    have hbefore : 'f' ∉ b.afterParams.1 := b.afterParams.2.notMem
    have hafter : 'f' ∉ b.beforeBrace.1 := b.beforeBrace.2.notMem
    rcases hr with rfl | rfl <;> simp [harrow, hbefore, hafter] at hf

/-! ## The name of a binding -/

theorem notMem_target (b : Binding) {c : Char} (hword : c ∉ CharSet.word := by decide)
    (hblank : c ∉ CharSet.blank := by decide) : c ∉ b.target := by
  have hletter : c ∉ CharSet.letter := fun h => hword (CharSet.mem_word_of_mem_letter h)
  have hkeyword : c ∉ b.keyword := fun h =>
    hletter ((letter_of_mem_bindingKeywords b.keyword_mem).2 c h)
  have hname : c ∉ b.name := fun h => hletter (b.lettered.mem c h)
  have hgap : c ∉ b.gap.1 := b.gap.2.notMem hblank
  have hbefore : c ∉ b.beforeAssign.1 := b.beforeAssign.2.notMem hblank
  have hspace : c ≠ ' ' := by
    rintro rfl
    exact hblank (by decide)
  simp [target, hkeyword, hname, hgap, hbefore, hspace]

theorem boundName_target (b : Binding) :
    boundName b.target = boundName (b.name ++ b.beforeAssign.1) := by
  have htarget : b.target = b.keyword ++ ' ' :: (b.gap.1 ++ (b.name ++ b.beforeAssign.1)) := by
    simp [target]
  rw [htarget, boundName_keyword_append b.keyword_mem, boundName_blank_append b.gap.2]

theorem placedName?_line (b : Binding) :
    placedName? b.line = some ⟨.beforeAssignment, boundName (b.name ++ b.beforeAssign.1)⟩ := by
  have hparen : '(' ∉ b.target ++ '=' :: b.afterAssign.1 ++ b.introduction := by
    obtain ⟨f, u, hf, hu, hintroduction⟩ := b.exists_introduction
    have htarget : '(' ∉ b.target := b.notMem_target
    have hafter : '(' ∉ b.afterAssign.1 := b.afterAssign.2.notMem
    have hu' : '(' ∉ u := hu.notMem
    rcases hf with rfl | rfl <;> simp [hintroduction, htarget, hafter, hu']
  have hbefore : beforeParameters? b.line = some _ := beforeParameters?_header hparen b.feed_notMem
  have hassign : '=' ∉ b.target := b.notMem_target
  have hbreak : breakOn? ['='] (b.target ++ '=' :: b.afterAssign.1 ++ b.introduction) =
      some (b.target, b.afterAssign.1 ++ b.introduction) := by
    rw [List.append_assoc]
    exact breakOn?_append_mark List.not_mem_nil fun h => hassign (h.subset List.mem_cons_self)
  have hkeyword : NamePlace.afterKeyword.placedNameIn? b.line = none := by
    rw [← Option.not_isSome_iff_eq_none, isSome_afterKeyword_iff, b.occursIn_keywordFunction_line]
    exact Bool.false_ne_true
  rw [placedName?_eq, hkeyword, Option.none_or, NamePlace.placedNameIn?,
    nameIn?_beforeAssignment hbefore, hbreak]
  simp only [Option.map_some, Option.some_or, b.boundName_target]

/-- The end of the name is lost: it is a keyword of bindings, and a space follows it. -/
def LosesEnd (b : Binding) : Prop :=
  b.beforeAssign.1.head? = some ' ' ∧ ∃ k ∈ bindingKeywords, k <:+ b.name

theorem boundName_of_not_losesEnd (b : Binding) (h : ¬ b.LosesEnd) :
    boundName (b.name ++ b.beforeAssign.1) = b.name := by
  apply boundName_letters_append b.lettered.mem b.beforeAssign.2
  intro k hk hsuffix hspace
  exact h ⟨hspace, k, hk, hsuffix⟩

theorem boundName_of_losesEnd (b : Binding) {stem k : Text}
    (hspace : b.beforeAssign.1.head? = some ' ') (hk : k ∈ bindingKeywords)
    (hname : b.name = stem ++ k) : boundName (b.name ++ b.beforeAssign.1) = stem := by
  obtain ⟨w, hw⟩ := List.head?_eq_some_iff.1 hspace
  have hstem : ∀ c ∈ stem, c ∈ CharSet.letter := fun c hc =>
    b.lettered.mem c (hname ▸ List.mem_append_left k hc)
  have hw' : Blank w := fun c hc => b.beforeAssign.2 c (hw ▸ List.mem_cons_of_mem _ hc)
  rw [hw, hname, boundName_letters_keyword_append hstem hk hw']

theorem boundName_eq_nil_iff (b : Binding) : boundName (b.name ++ b.beforeAssign.1) = [] ↔
    b.name ∈ bindingKeywords ∧ b.beforeAssign.1.head? = some ' ' := by
  by_cases h : b.LosesEnd
  · obtain ⟨hspace, k, hk, stem, hname⟩ := h
    rw [b.boundName_of_losesEnd hspace hk hname.symm, and_iff_left hspace]
    constructor
    · rintro rfl
      rwa [← hname]
    · intro hmem
      have heq := eq_of_suffix_bindingKeywords hk hmem ⟨stem, hname⟩
      exact List.append_left_eq_self.1 (hname.trans heq.symm)
  · rw [b.boundName_of_not_losesEnd h]
    refine iff_of_false b.lettered.ne_nil ?_
    rintro ⟨hmem, hspace⟩
    exact h ⟨hspace, b.name, hmem, List.suffix_refl _⟩

end Binding

/-- A function bound to a name is found, and its name before the assignment. The name is given as
it stands, but for a keyword of bindings at its end that a space follows; only such a keyword
alone has no name. -/
theorem placedName?_binding (b : Binding) :
    bindsFunction b.line = true ∧ opensNamedFunction b.line = true ∧
    (¬ b.LosesEnd → placedName? b.line = some ⟨.beforeAssignment, b.name⟩) ∧
    (b.beforeAssign.1.head? = some ' ' → ∀ stem, ∀ k ∈ bindingKeywords, b.name = stem ++ k →
      placedName? b.line = some ⟨.beforeAssignment, stem⟩) ∧
    (declaredFunction b.line = .error (.nameless .namedFunction b.line) ↔
      b.name ∈ bindingKeywords ∧ b.beforeAssign.1.head? = some ' ') := by
  have hnamed := opensNamedFunction_of_bindsFunction b.bindsFunction_line
  have hfound : functionName b.line = boundName (b.name ++ b.beforeAssign.1) := by
    rw [functionName, b.placedName?_line]
    rfl
  refine ⟨b.bindsFunction_line, hnamed, ?_, ?_, ?_⟩
  · intro h
    rw [b.placedName?_line, b.boundName_of_not_losesEnd h]
  · intro hspace stem k hk hname
    rw [b.placedName?_line, b.boundName_of_losesEnd hspace hk hname]
  · rw [declaredFunction, declared_eq_error_iff, hnamed, hfound, b.boundName_eq_nil_iff]
    simp

theorem placedName?_binding_wallet :
    placedName? "let wallet = function (a, b) \x7b".toList =
      some ⟨.beforeAssignment, "wal".toList⟩ := by
  let b : Binding :=
    { keyword := "let".toList, gap := ⟨[], by decide⟩, name := "wallet".toList,
      beforeAssign := ⟨[' '], by decide⟩, afterAssign := ⟨[' '], by decide⟩,
      introduced := some ⟨[' '], by decide⟩, params := "a, b".toList,
      afterParams := ⟨[' '], by decide⟩, arrow := false, beforeBrace := ⟨[], by decide⟩,
      keyword_mem := by decide, lettered := by decide, feed_notMem := by decide,
      not_function := by
        intro h
        exact absurd (h.subset (by decide : 'f' ∈ "function".toList)) (by decide) }
  have hline : "let wallet = function (a, b) \x7b".toList = b.line := by decide
  rw [hline]
  exact (placedName?_binding b).2.2.2.1 rfl "wal".toList "let".toList (by decide) rfl

end SourceLine.Line
