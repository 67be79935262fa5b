import SourceLine.Line.FunctionName
import SourceLine.Proofs.Shape.Matches
import SourceLine.Proofs.Text.Blank

/-!
# The name in a binding

What is left of a binding without its noise, step by step: a keyword with its space and a run of
blanks go, a beginning in which no noise starts stays. So a word is read up to the blank after it,
and what is left of it depends on that blank alone (`boundName_word_append`). Of a name of letters
nothing is lost but a keyword at its end that a space follows.
-/

namespace SourceLine

open Text

namespace Shape

/-- The keywords of bindings. -/
def bindingKeywords : List Text :=
  ["const", "var", "let"].map String.toList

variable {k t w : Text}

theorem letter_of_mem_bindingKeywords (hk : k ∈ bindingKeywords) :
    k ≠ [] ∧ ∀ c ∈ k, c ∈ CharSet.letter := by
  have hall : ∀ k ∈ bindingKeywords, k ≠ [] ∧ k.all CharSet.letter.contains = true := by decide
  exact ⟨(hall k hk).1, CharSet.forall_mem_of_all (hall k hk).2⟩

theorem solid_of_mem_bindingKeywords (hk : k ∈ bindingKeywords) : ∀ c ∈ k, c ∉ CharSet.blank :=
  fun c hc => CharSet.not_mem_blank_of_mem_word
    (CharSet.mem_word_of_mem_letter ((letter_of_mem_bindingKeywords hk).2 c hc))

theorem eq_of_suffix_bindingKeywords {k' : Text} (hk : k ∈ bindingKeywords)
    (hk' : k' ∈ bindingKeywords) (h : k <:+ k') : k = k' := by
  have hall : ∀ k ∈ bindingKeywords, ∀ k' ∈ bindingKeywords, k <:+ k' → k = k' := by decide
  exact hall k hk k' hk' h

theorem language_bindingNoise_iff : bindingNoise.pattern.Language t ↔
    (∃ k ∈ bindingKeywords, t = k ++ [' ']) ∨ t = ['='] ∨ t ≠ [] ∧ Blank t := by
  have hkeyword : (∃ k ∈ bindingKeywords, t = k ++ [' ']) ↔
      t = "const ".toList ∨ t = "var ".toList ∨ t = "let ".toList := by
    simp [bindingKeywords]
  rw [language_bindingNoise, hkeyword]
  simp only [List.map_cons, List.map_nil, List.mem_cons, List.not_mem_nil, or_false, or_assoc]
  rfl

/-- The noise that starts with a blank is blank: the keywords and the assignment do not. -/
theorem blank_of_language_bindingNoise {d : Char} {t : Text}
    (h : bindingNoise.pattern.Language (d :: t)) (hd : d ∈ CharSet.blank) : Blank (d :: t) := by
  rcases language_bindingNoise.1 h with h | h
  · simp only [List.map_cons, List.map_nil, List.mem_cons, List.not_mem_nil, or_false] at h
    rcases h with h | h | h | h <;> cases h <;> exact absurd hd (by decide)
  · exact h.2

/-- The noise that starts with neither a blank nor an assignment is a keyword and a space. -/
theorem keyword_of_language_bindingNoise {d : Char} {t : Text}
    (h : bindingNoise.pattern.Language (d :: t)) (hd : d ∉ CharSet.blank) (hassign : d ≠ '=') :
    ∃ k ∈ bindingKeywords, d :: t = k ++ [' '] := by
  rcases language_bindingNoise_iff.1 h with h | h | ⟨-, h⟩
  · exact h
  · exact absurd (List.cons_eq_cons.1 h).1 hassign
  · exact absurd (h d List.mem_cons_self) hd

/-- Noise other than blanks and an assignment starts with a word only if the word is a keyword and
a space follows. -/
theorem starts_bindingNoise_iff {c : Char} (hsolid : ∀ d ∈ c :: t, d ∉ CharSet.blank)
    (hassign : c ≠ '=') (hw : ∀ d ∈ w.head?, d ∈ CharSet.blank) :
    bindingNoise.pattern.Starts (c :: t ++ w) ↔ c :: t ∈ bindingKeywords ∧ w.head? = some ' ' := by
  have hspace : ' ' ∉ c :: t := fun h => hsolid _ h (by decide)
  constructor
  · intro h
    obtain ⟨u, v, huv, hu⟩ := h
    obtain ⟨e, u, rfl⟩ := List.exists_cons_of_ne_nil (bindingNoise.settled.ne_nil hu)
    obtain ⟨rfl, -⟩ := List.cons_eq_cons.1 huv
    obtain ⟨k, hk, hku⟩ :=
      keyword_of_language_bindingNoise hu (hsolid c List.mem_cons_self) hassign
    have hpre : k ++ [' '] <+: c :: t ++ w := ⟨v, by rw [← hku, ← huv]⟩
    obtain ⟨rfl, hhead⟩ :=
      (keyword_prefix_word_iff (solid_of_mem_bindingKeywords hk) hspace hw).1 hpre
    exact ⟨hk, hhead⟩
  · intro h
    obtain ⟨hk, hhead⟩ := h
    obtain ⟨w, rfl⟩ := List.head?_eq_some_iff.1 hhead
    exact ⟨c :: t ++ [' '], w, by simp, language_bindingNoise_iff.2 (.inl ⟨_, hk, rfl⟩)⟩

end Shape

namespace Line

open Shape

variable {k w name stem : Text}

theorem boundName_dropWhile (t : Text) : boundName (t.dropWhile isBlank) = boundName t := by
  have ht := List.takeWhile_append_dropWhile (p := isBlank) (l := t)
  have hhead := List.head?_dropWhile_not isBlank t
  have hblank : Blank (t.takeWhile isBlank) := fun c hc => List.mem_takeWhile_imp hc
  generalize t.takeWhile isBlank = u at ht hblank
  generalize t.dropWhile isBlank = r at ht hhead
  subst ht
  cases u with
  | nil => rfl
  | cons d u =>
    symm
    apply Shape.bindingNoise.settled.erase_append
    · exact Shape.language_bindingNoise.2 (.inr ⟨List.cons_ne_nil d u, hblank⟩)
    · intro u' v' huv hu'
      rcases List.append_eq_append_iff.1 huv with ⟨x, rfl, rfl⟩ | ⟨x, hx, -⟩
      · cases x with
        | nil => simp
        | cons e x =>
          have hlong := Shape.blank_of_language_bindingNoise hu' (hblank d List.mem_cons_self)
          have he : isBlank e = true := hlong e (by simp)
          exact absurd he (Bool.eq_false_iff.1 hhead)
      · rw [hx, List.length_append]
        exact Nat.le_add_right _ _

theorem boundName_blank_append (hw : Blank w) (t : Text) : boundName (w ++ t) = boundName t := by
  have hw : ∀ c ∈ w, isBlank c = true := hw
  rw [← boundName_dropWhile (w ++ t), List.dropWhile_append_of_pos hw, boundName_dropWhile]

theorem boundName_of_blank (hw : Blank w) : boundName w = [] := by
  have h := boundName_blank_append hw []
  rwa [List.append_nil] at h

theorem boundName_keyword_append (hk : k ∈ bindingKeywords) (t : Text) :
    boundName (k ++ ' ' :: t) = boundName t := by
  have hspace : ' ' ∉ k := fun h => solid_of_mem_bindingKeywords hk _ h (by decide)
  have hline : k ++ ' ' :: t = k ++ [' '] ++ t := by simp
  rw [hline]
  apply bindingNoise.settled.erase_append
  · exact language_bindingNoise_iff.2 (.inl ⟨k, hk, rfl⟩)
  · intro u v huv hu
    obtain ⟨hne, hletter⟩ := letter_of_mem_bindingKeywords hk
    obtain ⟨d, k, rfl⟩ := List.exists_cons_of_ne_nil hne
    obtain ⟨e, u, rfl⟩ := List.exists_cons_of_ne_nil (bindingNoise.settled.ne_nil hu)
    obtain ⟨rfl, -⟩ := List.cons_eq_cons.1 huv
    have hassign : d ≠ '=' := by
      rintro rfl
      exact absurd (hletter '=' List.mem_cons_self) (by decide)
    -- both are keywords that start the line, and neither has the space that ends the other
    obtain ⟨k', hk', hku⟩ := keyword_of_language_bindingNoise hu
      (solid_of_mem_bindingKeywords hk d List.mem_cons_self) hassign
    have hspace' : ' ' ∉ k' := fun h => solid_of_mem_bindingKeywords hk' _ h (by decide)
    have hpre : k' <+: d :: k ++ ' ' :: t := ⟨' ' :: v, by rw [hline, huv, hku]; simp⟩
    have hle := (prefix_of_prefix_append_cons hpre hspace').length_le
    rw [hku, List.length_append, List.length_append]
    exact Nat.add_le_add_right hle 1

theorem boundName_assign_cons (t : Text) : boundName ('=' :: t) = boundName t := by
  refine bindingNoise.settled.erase_append (u := ['=']) ?_ ?_
  · exact language_bindingNoise_iff.2 (.inr (.inl rfl))
  · intro u v huv hu
    obtain ⟨e, u, rfl⟩ := List.exists_cons_of_ne_nil (bindingNoise.settled.ne_nil hu)
    obtain ⟨rfl, -⟩ := List.cons_eq_cons.1 huv
    rcases language_bindingNoise_iff.1 hu with ⟨k, hk, hku⟩ | hu | ⟨-, hu⟩
    · obtain ⟨hne, hletter⟩ := letter_of_mem_bindingKeywords hk
      obtain ⟨d, k, rfl⟩ := List.exists_cons_of_ne_nil hne
      obtain ⟨rfl, -⟩ := List.cons_eq_cons.1 hku
      exact absurd (hletter '=' List.mem_cons_self) (by decide)
    · rw [hu]
    · exact absurd (hu '=' List.mem_cons_self) (by decide)

/-! ## What is left of a word -/

/-- A word without the keyword at its end, if it ends with one. -/
def withoutKeyword (t : Text) : Text :=
  (bindingKeywords.findSome? t.dropSuffix?).getD t

theorem withoutKeyword_append (hk : k ∈ bindingKeywords) : withoutKeyword (stem ++ k) = stem := by
  have hdrop : ∀ {k' u}, (stem ++ k).dropSuffix? k' = some u ↔ stem ++ k = u ++ k' := by
    simp [List.dropSuffix?_eq_some_iff]
  have hsome : (bindingKeywords.findSome? (stem ++ k).dropSuffix?).isSome :=
    List.findSome?_isSome_iff.2 ⟨k, hk, Option.isSome_iff_exists.2 ⟨stem, hdrop.2 rfl⟩⟩
  obtain ⟨u, hu⟩ := Option.isSome_iff_exists.1 hsome
  obtain ⟨k', hk', hcut⟩ := List.exists_of_findSome?_eq_some hu
  rw [hdrop] at hcut
  -- no keyword ends another one, so the word ends with this one only
  have hkk : k = k' := by
    rcases List.suffix_or_suffix_of_suffix ⟨stem, rfl⟩ ⟨u, hcut.symm⟩ with h | h
    · exact eq_of_suffix_bindingKeywords hk hk' h
    · exact (eq_of_suffix_bindingKeywords hk' hk h).symm
  subst hkk
  rw [withoutKeyword, hu, Option.getD_some, List.append_cancel_right hcut]

theorem withoutKeyword_of_not_suffix {t : Text} (h : ∀ k ∈ bindingKeywords, ¬ k <:+ t) :
    withoutKeyword t = t := by
  have hnone : bindingKeywords.findSome? t.dropSuffix? = none := by
    apply List.findSome?_eq_none_iff.2
    intro k hk
    apply Option.eq_none_iff_forall_ne_some.2
    intro u hu
    obtain ⟨_, rfl, hk'⟩ := List.dropSuffix?_eq_some_iff.1 hu
    exact h k hk ⟨u, by rw [eq_of_beq hk']⟩
  rw [withoutKeyword, hnone, Option.getD_none]

theorem withoutKeyword_cons {c : Char} {t : Text} (h : c :: t ∉ bindingKeywords) :
    withoutKeyword (c :: t) = c :: withoutKeyword t := by
  by_cases hex : ∃ k ∈ bindingKeywords, k <:+ t
  · obtain ⟨k, hk, stem, rfl⟩ := hex
    rw [withoutKeyword_append hk, ← List.cons_append, withoutKeyword_append hk]
  · have hno : ∀ k ∈ bindingKeywords, ¬ k <:+ t := fun k hk hsuffix => hex ⟨k, hk, hsuffix⟩
    rw [withoutKeyword_of_not_suffix hno, withoutKeyword_of_not_suffix]
    intro k hk hsuffix
    rcases List.suffix_cons_iff.1 hsuffix with rfl | hsuffix
    · exact h hk
    · exact hno k hk hsuffix

theorem withoutKeyword_sublist (t : Text) : (withoutKeyword t).Sublist t := by
  by_cases hex : ∃ k ∈ bindingKeywords, k <:+ t
  · obtain ⟨k, hk, stem, rfl⟩ := hex
    rw [withoutKeyword_append hk]
    exact List.sublist_append_left stem k
  · rw [withoutKeyword_of_not_suffix fun k hk hsuffix => hex ⟨k, hk, hsuffix⟩]

/-- What is left of a word in a name, by the character after the word: the keyword at its end goes
if that is a space, and the equality signs go. -/
def wordPart (next : Option Char) (word : Text) : Text :=
  (if next = some ' ' then withoutKeyword word else word).filter (· != '=')

variable {next : Option Char} {c : Char} {u : Text}

theorem mem_of_mem_wordPart (h : c ∈ wordPart next u) : c ∈ u ∧ c ≠ '=' := by
  obtain ⟨hmem, hassign⟩ := List.mem_filter.1 h
  refine ⟨?_, by simpa using hassign⟩
  split at hmem
  next => exact (withoutKeyword_sublist u).subset hmem
  next => exact hmem

theorem wordPart_of_not_suffix (hassign : '=' ∉ u)
    (hno : ∀ k ∈ bindingKeywords, k <:+ u → next ≠ some ' ') : wordPart next u = u := by
  have hkept : (if next = some ' ' then withoutKeyword u else u) = u := by
    split
    next hnext => exact withoutKeyword_of_not_suffix fun k hk hsuffix => hno k hk hsuffix hnext
    next => rfl
  rw [wordPart, hkept, List.filter_eq_self.2 (bne_of_notMem hassign)]

theorem wordPart_append_keyword (hassign : '=' ∉ stem) (hk : k ∈ bindingKeywords) :
    wordPart (some ' ') (stem ++ k) = stem := by
  rw [wordPart, if_pos rfl, withoutKeyword_append hk,
    List.filter_eq_self.2 (bne_of_notMem hassign)]

theorem wordPart_cons (h : c :: u ∈ bindingKeywords → next ≠ some ' ') :
    wordPart next (c :: u) = (if c = '=' then [] else [c]) ++ wordPart next u := by
  have hcons : (if next = some ' ' then withoutKeyword (c :: u) else c :: u) =
      c :: if next = some ' ' then withoutKeyword u else u := by
    split
    next hnext => exact withoutKeyword_cons fun hk => h hk hnext
    next => rfl
  rw [wordPart, hcons, List.filter_cons, wordPart]
  by_cases hc : c = '=' <;> simp [hc]

/-- A word is read up to the blank after it, whatever follows. -/
theorem boundName_word_append {r : Text} (hu : ∀ c ∈ u, c ∉ CharSet.blank)
    (hr : ∀ c ∈ r.head?, c ∈ CharSet.blank) :
    boundName (u ++ r) = wordPart r.head? u ++ boundName r := by
  induction u with
  | nil =>
    rw [wordPart_of_not_suffix List.not_mem_nil fun k hk hnil =>
      absurd (List.suffix_nil.1 hnil) (letter_of_mem_bindingKeywords hk).1]
    rfl
  | cons c u ih =>
    have hrest := ih fun d hd => hu d (List.mem_cons_of_mem c hd)
    by_cases hk : c :: u ∈ bindingKeywords ∧ r.head? = some ' '
    · obtain ⟨hk, hspace⟩ := hk
      obtain ⟨r, rfl⟩ := List.head?_eq_some_iff.1 hspace
      have hblank : Blank [' '] := by decide
      have hgone := wordPart_append_keyword List.not_mem_nil hk
      rw [List.nil_append] at hgone
      rw [boundName_keyword_append hk, hspace, hgone, List.nil_append]
      exact (boundName_blank_append hblank r).symm
    · rw [wordPart_cons fun hmem hspace => hk ⟨hmem, hspace⟩, List.append_assoc, ← hrest]
      split
      next hassign => rw [hassign, List.cons_append, boundName_assign_cons, List.nil_append]
      next hassign =>
        apply bindingNoise.settled.erase_append_of_not_starts (a := [c])
        intro x y hxy hy hstarts
        obtain ⟨rfl, rfl⟩ : x = [] ∧ y = [c] := by
          rcases List.append_eq_singleton_iff.1 hxy.symm with h | ⟨-, h⟩
          · exact h
          · exact absurd h hy
        exact hk ((starts_bindingNoise_iff hu hassign hr).1 hstarts)

/-! ## Names of letters -/

theorem assign_notMem_letters {t : Text} (h : ∀ c ∈ t, c ∈ CharSet.letter) : '=' ∉ t :=
  fun hc => absurd (h _ hc) (by decide)

theorem solid_of_letters {t : Text} (h : ∀ c ∈ t, c ∈ CharSet.letter) :
    ∀ c ∈ t, c ∉ CharSet.blank :=
  fun c hc => CharSet.not_mem_blank_of_mem_word (CharSet.mem_word_of_mem_letter (h c hc))

theorem boundName_letters_append (hname : ∀ c ∈ name, c ∈ CharSet.letter) (hw : Blank w)
    (hno : ∀ k ∈ bindingKeywords, k <:+ name → w.head? ≠ some ' ') :
    boundName (name ++ w) = name := by
  rw [boundName_word_append (solid_of_letters hname) hw.head, boundName_of_blank hw,
    List.append_nil, wordPart_of_not_suffix (assign_notMem_letters hname) hno]

theorem boundName_letters_keyword_append (hstem : ∀ c ∈ stem, c ∈ CharSet.letter)
    (hk : k ∈ bindingKeywords) (hw : Blank w) : boundName (stem ++ k ++ ' ' :: w) = stem := by
  have hsolid : ∀ c ∈ stem ++ k, c ∉ CharSet.blank := by
    intro c hc
    rcases List.mem_append.1 hc with hc | hc
    · exact solid_of_letters hstem c hc
    · exact solid_of_mem_bindingKeywords hk c hc
  have hpart := wordPart_append_keyword (assign_notMem_letters hstem) hk
  rw [boundName_word_append hsolid hw.space_cons.head, boundName_of_blank hw.space_cons,
    List.append_nil]
  exact hpart

end Line

end SourceLine
