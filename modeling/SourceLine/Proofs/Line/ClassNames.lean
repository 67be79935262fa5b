import Mathlib.Data.List.DropRight
import SourceLine.Proofs.Line.Declared
import SourceLine.Proofs.Line.Header

/-!
# Names of classes

The name of a class is a word without braces at its end (`classWord_className`), and every such
word is the name that a line shows where its first keyword stands before the word, whatever is
around them (`className_classLine`). A header made from the name alone is read back as the same
name, and opens a class exactly if the name starts with a letter.
-/

namespace SourceLine

namespace Text

variable {c : Char} {t : Text}

theorem dropTrailing_eq_rdropWhile : dropTrailing c t = t.rdropWhile (· == c) := rfl

theorem dropTrailing_append_replicate (h : t.getLast? ≠ some c) (n : Nat) :
    dropTrailing c (t ++ List.replicate n c) = t := by
  induction n with
  | zero =>
    rw [List.replicate_zero, List.append_nil, dropTrailing_eq_rdropWhile,
      List.rdropWhile_eq_self_iff]
    intro hne hlast
    rw [List.getLast?_eq_some_getLast hne, eq_of_beq hlast] at h
    exact h rfl
  | succ n ih =>
    rw [List.replicate_succ', ← List.append_assoc, dropTrailing_eq_rdropWhile,
      List.rdropWhile_concat_pos (· == c) _ c (beq_self_eq_true c)]
    exact ih

theorem getLast?_dropTrailing (c : Char) (t : Text) : (dropTrailing c t).getLast? ≠ some c := by
  intro h
  have hne : dropTrailing c t ≠ [] := by
    intro hnil
    simp [hnil] at h
  rw [List.getLast?_eq_some_getLast hne, Option.some.injEq] at h
  exact List.rdropWhile_last_not (· == c) t hne (beq_iff_eq.2 h)

end Text

namespace Line

open Pattern Shape Text

/-- A word without braces at its end, perhaps the empty one. -/
structure ClassWord (t : Text) : Prop where
  solid : ∀ c ∈ t, c ∉ CharSet.blank
  unbraced : t.getLast? ≠ some '{'

/-- The text starts with a letter. -/
def LetterLed (t : Text) : Prop :=
  ∃ c ∈ t.head?, c ∈ CharSet.letter

instance (t : Text) : Decidable (ClassWord t) :=
  decidable_of_iff ((t.all fun c => !isBlank c) = true ∧ t.getLast? ≠ some '{')
    ⟨fun h => ⟨by simpa using h.1, h.2⟩, fun h => ⟨by simpa using h.solid, h.unbraced⟩⟩

instance (t : Text) : Decidable (LetterLed t) :=
  decidable_of_iff (t.head?.any CharSet.letter.contains = true) (Option.any_eq_true ..)

/-- The keyword of classes and a name with `braces` braces right behind it, between other text. -/
def classLine (pre gap name : Text) (braces : Nat) (tail : Text) : Text :=
  pre ++ "class ".toList ++ gap ++ name ++ List.replicate braces '{' ++ tail

/-- The header `class name {`. -/
def plainClass (name : Text) : Text :=
  classLine [] [] name 0 " \x7b".toList

variable {pre gap name tail x : Text} {braces : Nat}

theorem ClassWord.notMem {c : Char} (h : ClassWord name) (hc : c ∈ CharSet.blank := by decide) :
    c ∉ name :=
  fun hm => h.solid c hm hc

theorem LetterLed.exists_cons (h : LetterLed name) :
    ∃ c t, name = c :: t ∧ c ∈ CharSet.letter := by
  obtain ⟨c, hc, hletter⟩ := h
  obtain ⟨t, rfl⟩ := List.head?_eq_some_iff.1 hc
  exact ⟨c, t, rfl, hletter⟩

theorem LetterLed.ne_nil (h : LetterLed name) : name ≠ [] := by
  obtain ⟨c, t, rfl, -⟩ := h.exists_cons
  exact List.cons_ne_nil c t

theorem classWord_className (line : Text) : ClassWord (className line) := by
  refine ⟨fun c => not_blank_of_mem_className, ?_⟩
  rw [className]
  split
  next rest _ => exact getLast?_dropTrailing '{' (firstWord rest)
  next => simp

/-- The first keyword decides, and the word behind it is the name. -/
theorem className_classLine (hpre : ¬ "class ".toList <:+: pre) (hgap : Blank gap)
    (hname : ClassWord name) (hne : name ++ List.replicate braces '{' ≠ [])
    (htail : ∀ c ∈ tail.head?, c ∈ CharSet.blank) :
    className (classLine pre gap name braces tail) = name := by
  have hline : classLine pre gap name braces tail =
      pre ++ ("class ".toList ++ (gap ++ (name ++ List.replicate braces '{' ++ tail))) := by
    simp [classLine]
  have hbreak : ∀ t, breakOn? "class ".toList (pre ++ ("class ".toList ++ t)) = some (pre, t) :=
    fun t => breakOn?_append_mark (c := 'c') (by decide) hpre
  have hsolid : ∀ c ∈ name ++ List.replicate braces '{', c ∉ CharSet.blank := by
    intro c hc
    rcases List.mem_append.1 hc with hc | hc
    · exact hname.solid c hc
    · rw [List.eq_of_mem_replicate hc]
      decide
  rw [className, hline, hbreak]
  simp only [firstWord_blank_append hgap, firstWord_append hne hsolid htail]
  exact dropTrailing_append_replicate hname.unbraced braces

theorem className_plainClass (hname : ClassWord name) : className (plainClass name) = name := by
  have hpre : ¬ "class ".toList <:+: [] := by decide
  cases name with
  | nil =>
    -- the brace is the word, and goes
    have hgap : Blank [' '] := by decide
    have hline : plainClass [] = classLine [] [' '] [] 1 [] := rfl
    rw [hline]
    exact className_classLine hpre hgap hname (by simp) (by simp)
  | cons c t =>
    have htail : ∀ d ∈ " \x7b".toList.head?, d ∈ CharSet.blank := by
      intro d hd
      cases hd
      decide
    exact className_classLine hpre (by simp [Blank]) hname (by simp) htail

/-- The keyword in the header is the only one that a blank follows, since the name has none. -/
theorem opensClass_plainClass_iff (hname : ClassWord name) :
    opensClass (plainClass name) = true ↔ LetterLed name := by
  have hline : plainClass name = "class".toList ++ ' ' :: (name ++ [' ']) ++ ['{'] := by
    simp [plainClass, classLine]
  have hfeed : '\n' ∉ "class".toList ++ ' ' :: (name ++ [' ']) := by
    have hname' : '\n' ∉ name := hname.notMem
    simp [hname']
  rw [hline, opensClass_append_brace hfeed]
  constructor
  · intro h
    obtain ⟨w, c, hw, hw', hc, h⟩ := h
    have hlast : c ∉ [' '] := fun hm => absurd (List.mem_singleton.1 hm ▸ hc) (by decide)
    have hsolid : ∀ {d : Char}, d ∈ w → d ∉ name := fun hd hm => hname.solid _ hm (hw' _ hd)
    rcases infix_append_cons_cases.1 h with h | h | ⟨u, v, huv, hu, hv⟩
    · have hle := h.length_le
      have hpos := List.length_pos_iff.2 hw
      simp only [List.length_append, List.length_singleton] at hle
      omega
    · obtain ⟨d, w, rfl⟩ := List.exists_cons_of_ne_nil hw
      rw [infix_append_iff_of_getLast List.getLast?_concat hlast] at h
      have hd : d ∈ name := h.subset (by simp)
      exact absurd hd (hsolid List.mem_cons_self)
    · -- what stands before the space is the keyword, so the blanks are this space alone
      rw [List.append_assoc] at huv
      obtain ⟨z, rfl, hz⟩ := append_cons_eq_append_of_notMem_left huv.symm (by decide)
      obtain rfl : z = [] := by
        have hle := hu.length_le
        rw [List.length_append] at hle
        exact List.length_eq_zero_iff.1 (by omega)
      obtain ⟨d, w, rfl⟩ := List.exists_cons_of_ne_nil hw
      obtain ⟨rfl, hv'⟩ := List.cons_eq_cons.1 hz
      rw [← show w ++ [c] = v from hv',
        prefix_append_iff_of_getLast List.getLast?_concat hlast] at hv
      cases w with
      | nil =>
        obtain ⟨t, rfl⟩ := hv
        exact ⟨c, rfl, hc⟩
      | cons d w =>
        have hd : d ∈ name := hv.subset List.mem_cons_self
        exact absurd hd (hsolid (List.mem_cons_of_mem _ List.mem_cons_self))
  · intro h
    obtain ⟨c, t, rfl, hletter⟩ := h.exists_cons
    have hblank : ∀ d ∈ [' '], d ∈ CharSet.blank := CharSet.forall_mem_of_all (by decide)
    exact ⟨[' '], c, by simp, hblank, hletter, [], t ++ [' '], by simp⟩

/-- The name of a class survives being written into a header and read again: it is the name of
this header, which opens a class exactly if the name starts with a letter. The same holds of every
word without braces at its end, whether or not it was read from a line. -/
theorem declaredClass_plainClass (line : Text) :
    ClassWord (className line) ∧
      className (plainClass (className line)) = className line ∧
      (opensClass (plainClass (className line)) = true ↔ LetterLed (className line)) ∧
      declaredClass (plainClass (className line)) =
        (if LetterLed (className line) then .ok (className line)
          else .error (.notOpened .classHeader (plainClass (className line)))) ∧
      ∀ name, ClassWord name → className (plainClass name) = name ∧
        (opensClass (plainClass name) = true ↔ LetterLed name) := by
  have hword := classWord_className line
  have hname := className_plainClass hword
  have hopens := opensClass_plainClass_iff hword
  refine ⟨hword, hname, hopens, ?_, fun name hname =>
    ⟨className_plainClass hname, opensClass_plainClass_iff hname⟩⟩
  rw [declaredClass, hname]
  split
  next hletter => exact declared_eq_ok_iff.2 ⟨hopens.2 hletter, hletter.ne_nil, rfl⟩
  next hletter =>
    exact declared_eq_error_iff.2 (.inl ⟨Bool.eq_false_iff.2 (hletter ∘ hopens.1), rfl⟩)

-- A brace inside a name stays.
theorem declaredClass_plainClass_braced :
    ClassWord "A\x7bB".toList ∧ className "class A\x7bB \x7b".toList = "A\x7bB".toList ∧
      opensClass "class A\x7bB \x7b".toList = true := by
  have hword : ClassWord "A\x7bB".toList := by decide
  have hletter : LetterLed "A\x7bB".toList := by decide
  have hline : plainClass "A\x7bB".toList = "class A\x7bB \x7b".toList := by decide
  obtain ⟨-, -, -, -, hrebuilt⟩ := declaredClass_plainClass []
  obtain ⟨hname, hopens⟩ := hrebuilt _ hword
  rw [hline] at hname hopens
  exact ⟨hword, hname, hopens.2 hletter⟩

/-! ## Classes between other text -/

/-- A brace in the name, right behind it, or in the rest of its line. -/
def BraceFollows (name : Text) (braces : Nat) (tail : Text) : Prop :=
  '{' ∈ name ∨ 0 < braces ∨ '{' ∈ tail.takeWhile (· != '\n')

theorem BraceFollows.exists_brace (h : BraceFollows name braces tail) (hname : ClassWord name) :
    ∃ x y, name ++ List.replicate braces '{' ++ tail = x ++ '{' :: y ∧ '\n' ∉ x := by
  have hname' : '\n' ∉ name := hname.notMem
  rcases h with h | h | h
  · obtain ⟨x, y, rfl⟩ := List.append_of_mem h
    refine ⟨x, y ++ List.replicate braces '{' ++ tail, by simp, ?_⟩
    exact fun hx => hname' (List.mem_append_left _ hx)
  · obtain ⟨n, rfl⟩ := Nat.exists_eq_succ_of_ne_zero (Nat.ne_of_gt h)
    exact ⟨name, List.replicate n '{' ++ tail, by simp [List.replicate_succ], hname'⟩
  · obtain ⟨x, y, hxy⟩ := List.append_of_mem h
    obtain ⟨z, hz⟩ := List.takeWhile_prefix (· != '\n') (l := tail)
    have hx : '\n' ∉ x := by
      intro hm
      have hfeed := List.mem_takeWhile_imp (hxy ▸ List.mem_append_left _ hm)
      simp at hfeed
    refine ⟨name ++ List.replicate braces '{' ++ x, y ++ z, ?_, ?_⟩
    · rw [← hz, hxy]
      simp
    · simp [hname', hx, List.mem_replicate]

theorem opensClass_classLine (hgap : Blank gap) (hname : ClassWord name) (hletter : LetterLed name)
    (hbrace : BraceFollows name braces tail) (pre : Text) :
    opensClass (classLine pre gap name braces tail) = true := by
  obtain ⟨c, t, rfl, hc⟩ := hletter.exists_cons
  obtain ⟨x, y, hxy, hx⟩ := hbrace.exists_brace hname
  have hline : classLine pre gap (c :: t) braces tail =
      pre ++ "class ".toList ++ gap ++ (x ++ '{' :: y) := by
    rw [← hxy]
    simp [classLine]
  cases x with
  | nil =>
    obtain ⟨rfl, -⟩ := List.cons_eq_cons.1 hxy
    exact absurd hc (by decide)
  | cons d x =>
    obtain ⟨rfl, -⟩ := List.cons_eq_cons.1 hxy
    refine occursIn_iff_language.2
      ⟨pre, "class".toList ++ ' ' :: gap ++ [c] ++ x ++ ['{'], y, ?_, ?_⟩
    · rw [hline]
      simp
    · refine language_classHeader.2
        ⟨' ' :: gap, [c], x, by simp, hgap.space_cons, by simp, ?_, ?_, rfl⟩
      · simpa using hc
      · exact fun hm => hx (List.mem_cons_of_mem c hm)

/-- A class in any context that does not have the keyword earlier: its name is found, and with a
brace on the line of the name the class is what the line is reported for, whatever else the line
opens. -/
theorem outline_classLine (hpre : ¬ "class ".toList <:+: pre) (hgap : Blank gap)
    (hname : ClassWord name) (hletter : LetterLed name) (braces : Nat)
    (htail : ∀ c ∈ tail.head?, c ∈ CharSet.blank) :
    className (classLine pre gap name braces tail) = name ∧
      (BraceFollows name braces tail →
        opensClass (classLine pre gap name braces tail) = true ∧
          declaredClass (classLine pre gap name braces tail) = .ok name ∧
          (outline (classLine pre gap name braces tail)).primary = .classHeader ∧
          (outline (classLine pre gap name braces tail)).name = some name) := by
  have hfound : className (classLine pre gap name braces tail) = name :=
    className_classLine hpre hgap hname (by simp [hletter.ne_nil]) htail
  refine ⟨hfound, fun hbrace => ?_⟩
  have hopens := opensClass_classLine hgap hname hletter hbrace pre
  have hdeclared : declaredClass (classLine pre gap name braces tail) = .ok name :=
    declared_eq_ok_iff.2 ⟨hopens, hletter.ne_nil, hfound⟩
  refine ⟨hopens, hdeclared, ?_, ?_⟩
  · rw [Outline.primary, constructs_default, hopens]
    rfl
  · rw [name_outline, hopens, hdeclared]
    rfl

theorem outline_classLine_mixed :
    ClassWord "Foo".toList ∧ LetterLed "Foo".toList ∧
      BraceFollows "Foo".toList 2 " if (a) \x7b".toList ∧
      className "function() \x7b class \u3000Foo\x7b\x7b if (a) \x7b".toList = "Foo".toList ∧
      (outline "function() \x7b class \u3000Foo\x7b\x7b if (a) \x7b".toList).primary =
        .classHeader ∧
      (outline "function() \x7b class \u3000Foo\x7b\x7b if (a) \x7b".toList).name =
        some "Foo".toList := by
  have hpre : ¬ "class ".toList <:+: "function() \x7b ".toList := by
    intro h
    exact absurd (h.subset (by decide : 'l' ∈ "class ".toList)) (by decide)
  have hgap : Blank "\u3000".toList := by decide
  have hname : ClassWord "Foo".toList := by decide
  have hletter : LetterLed "Foo".toList := by decide
  have hbrace : BraceFollows "Foo".toList 2 " if (a) \x7b".toList := .inr (.inl (by decide))
  have htail : ∀ c ∈ " if (a) \x7b".toList.head?, c ∈ CharSet.blank := by
    intro c hc
    cases hc
    decide
  have hline : "function() \x7b class \u3000Foo\x7b\x7b if (a) \x7b".toList =
      classLine "function() \x7b ".toList "\u3000".toList "Foo".toList 2 " if (a) \x7b".toList := by
    decide
  obtain ⟨hfound, hopens⟩ := outline_classLine hpre hgap hname hletter 2 htail
  obtain ⟨-, -, hprimary, hgiven⟩ := hopens hbrace
  rw [hline]
  exact ⟨hname, hletter, hbrace, hfound, hprimary, hgiven⟩

end Line

end SourceLine
