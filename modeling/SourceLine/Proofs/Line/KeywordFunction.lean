import SourceLine.Proofs.Line.Header
import SourceLine.Proofs.Text.Blank

/-!
# Functions after their keyword

A function with its keyword is found wherever it stands in a line, also behind an assignment or
other parameters, and its name is what stands between the first keyword and the parameters. The
keyword and the space by which the name is cut out can come again only at the end of the name,
with the blank after it: such a name loses its end.
-/

namespace SourceLine.Line

open Pattern Shape Text

variable {pre gap name w params w' post : Text}

theorem withoutBlanks_between (hgap : Blank gap) (hname : ∀ c ∈ name, c ∈ CharSet.word)
    (hw : Blank w) : withoutBlanks (gap ++ name ++ w) = name := by
  rw [withoutBlanks_append_blank hw, withoutBlanks_blank_append hgap, withoutBlanks_of_word hname]

theorem takeWhile_paren_append {t : Text} (ht : '(' ∉ t) (rest : Text) :
    (t ++ rest).takeWhile (· != '(') = t ++ rest.takeWhile (· != '(') :=
  List.takeWhile_append_of_pos (bne_of_notMem ht)

/-- The keyword and a space stand between blanks and a name only if they are the end of the
name and a space after it. -/
theorem keyword_infix_iff (hgap : Blank gap) (hname : ∀ c ∈ name, c ∈ CharSet.word)
    (hw : Blank w) : "function ".toList <:+: gap ++ name ++ w ↔
      "function".toList <:+ name ∧ w.head? = some ' ' := by
  have hsolid : ∀ c ∈ "function".toList, c ∉ CharSet.blank :=
    CharSet.not_mem_blank_of_all (by decide)
  have hspace : ' ' ∉ name := fun h => absurd (hname _ h) (by decide)
  have hf : 'f' ∉ gap := hgap.notMem
  rw [List.append_assoc, infix_append_iff_of_head (t := "function ".toList) (c := 'f') rfl hf]
  exact keyword_infix_word_iff (k := "function".toList) hsolid hspace hw (by decide)

/-- The name that follows the first keyword and space. -/
theorem nameAfterKeyword_append (hpre : ¬ "function ".toList <:+: pre) (hgap : Blank gap)
    (hname : ∀ c ∈ name, c ∈ CharSet.word) (hw : Blank w) (rest : Text) :
    nameAfterKeyword (pre ++ ("function ".toList ++ (gap ++ name ++ w ++ '(' :: rest))) =
      if "function".toList <:+ name ∧ w.head? = some ' '
        then name.take (name.length - 8) else name := by
  have hbreak : ∀ {a t : Text}, ¬ "function ".toList <:+: a →
      breakOn? "function ".toList (a ++ ("function ".toList ++ t)) = some (a, t) :=
    fun ha => breakOn?_append_mark (c := 'f') (by decide) ha
  have hparen : '(' ∉ gap ++ name ++ w := by
    have hgap' : '(' ∉ gap := hgap.notMem
    have hname' : '(' ∉ name := fun h => absurd (hname _ h) (by decide)
    have hw' : '(' ∉ w := hw.notMem
    simp [hgap', hname', hw']
  simp only [nameAfterKeyword, hbreak hpre]
  split
  next h =>
    obtain ⟨⟨stem, rfl⟩, hspace⟩ := h
    obtain ⟨w, rfl⟩ := List.head?_eq_some_iff.1 hspace
    -- the name is cut before the keyword at its end
    have hstem : ∀ c ∈ stem, c ∈ CharSet.word := fun c hc => hname c (List.mem_append_left _ hc)
    have hno : ¬ "function ".toList <:+: gap ++ stem := by
      have := keyword_infix_iff (w := []) hgap hstem (by simp [Blank])
      simpa using this
    have hcut : gap ++ (stem ++ "function".toList) ++ ' ' :: w ++ '(' :: rest =
        gap ++ stem ++ ("function ".toList ++ (w ++ '(' :: rest)) := by simp
    have hparen' : '(' ∉ gap ++ stem := fun h => hparen (by simp_all)
    have htake := takeWhile_paren_append hparen' []
    simp only [List.append_nil, List.takeWhile_nil] at htake
    rw [hcut, upTo, hbreak hno]
    simpa [htake] using withoutBlanks_between (w := []) hgap hstem (by simp [Blank])
  next h =>
    rw [← keyword_infix_iff hgap hname hw] at h
    rw [upTo_append_cons (by decide) h, takeWhile_paren_append hparen]
    simpa using withoutBlanks_between hgap hname hw

theorem occursIn_keywordFunction (hgap : Blank gap) (hname : Name .letter name) (hw : Blank w)
    (hparams : '\n' ∉ params) (hw' : Blank w') (pre post : Text) : keywordFunction.occursIn
      (header (pre ++ "function ".toList ++ gap ++ name ++ w) params w' ++ post) = true := by
  refine occursIn_iff_language.2 ⟨pre,
    "function".toList ++ ' ' :: gap ++ name ++ w ++ '(' :: params ++ ')' :: w' ++ ['{'], post, ?_,
    ?_⟩
  · simp [header]
  · exact language_keywordFunction.2 ⟨' ' :: gap, name, w, params, w', List.cons_ne_nil _ _,
      hgap.space_cons, hname.ne_nil, hname.mem, hw, hparams, hw', rfl⟩

/-- A function with its keyword in any context that does not have the keyword earlier: the name
is found after the keyword, and given as it stands unless it ends with the keyword itself and a
space follows it. -/
theorem placedName?_keywordFunction (hpre : ¬ "function ".toList <:+: pre) (hgap : Blank gap)
    (hname : Name .letter name) (hw : Blank w) (hparams : '\n' ∉ params) (hw' : Blank w')
    (post : Text) :
    placedName? (header (pre ++ "function ".toList ++ gap ++ name ++ w) params w' ++ post) =
      some ⟨.afterKeyword, if "function".toList <:+ name ∧ w.head? = some ' '
        then name.take (name.length - 8) else name⟩ := by
  have hoccurs := occursIn_keywordFunction hgap hname hw hparams hw' pre post
  have hline : header (pre ++ "function ".toList ++ gap ++ name ++ w) params w' ++ post =
      pre ++ ("function ".toList ++
        (gap ++ name ++ w ++ '(' :: (params ++ ')' :: (w' ++ '{' :: post)))) := by
    simp [header]
  have hfound := nameAfterKeyword_append hpre hgap hname.toWord.mem hw
    (params ++ ')' :: (w' ++ '{' :: post))
  rw [← hline] at hfound
  simp only [placedName?, NamePlace.all, List.findSome?_cons, NamePlace.placedNameIn?,
    NamePlace.nameIn?, hoccurs, if_true, Option.map_some, hfound]

theorem placedName?_keywordFunction_malfunction :
    placedName? "x = f(y, function malfunction (a) \x7b z)".toList =
      some ⟨.afterKeyword, "mal".toList⟩ ∧
    placedName? "x = f(y, function malfunction(a) \x7b z)".toList =
      some ⟨.afterKeyword, "malfunction".toList⟩ := by
  have hpre : ¬ "function ".toList <:+: "x = f(y, ".toList := by
    intro h
    exact absurd (h.subset (by decide : 'u' ∈ "function ".toList)) (by decide)
  have hname : Name .letter "malfunction".toList := by decide
  have hnone : Blank [] := by decide
  have hspace : Blank [' '] := by decide
  have hparams : '\n' ∉ ['a'] := by decide
  have hline : "x = f(y, function malfunction (a) \x7b z)".toList =
      header ("x = f(y, ".toList ++ "function ".toList ++ [] ++ "malfunction".toList ++ [' ']) ['a']
        [' '] ++ " z)".toList := by decide
  have hline' : "x = f(y, function malfunction(a) \x7b z)".toList =
      header ("x = f(y, ".toList ++ "function ".toList ++ [] ++ "malfunction".toList ++ []) ['a']
        [' '] ++ " z)".toList := by decide
  rw [hline, hline', placedName?_keywordFunction hpre hnone hname hspace hparams hspace,
    placedName?_keywordFunction hpre hnone hname hnone hparams hspace]
  exact ⟨by decide, by decide⟩

end SourceLine.Line
