import SourceLine.Proofs.Line.BoundName
import SourceLine.Proofs.Text.Segments

/-!
# Words of a binding

The name in a binding, read off its words, the longest runs of characters that are no blanks. Each
word is treated on its own, by the character after it: a keyword at its end goes if that is a
space, and so do its equality signs. Deletion can bring the letters of a keyword together, but
nothing is read twice, so such a keyword stays; and it stays in a second reading too, since what is
left has no space.
-/

namespace SourceLine

open Text

/-- The words of a text, with what stands before and after them. -/
def Text.words (t : Text) : List Segment :=
  (segments isBlank t).filter (·.text ≠ [])

namespace Line

/-- What is left of a word in the name of a binding. -/
def boundPart (w : Segment) : Text :=
  wordPart w.after.head? w.text

variable {b : Text}

theorem boundPart_of_text_eq_nil {w : Segment} (h : w.text = []) : boundPart w = [] := by
  apply List.eq_nil_iff_forall_not_mem.2
  intro c hc
  obtain ⟨hmem, -⟩ := mem_of_mem_wordPart hc
  simp [h] at hmem

/-- The words still to be read, `text` being the beginning of the next one. -/
theorem boundName_segmentsFrom {before text rest : Text} (htext : ∀ c ∈ text, c ∉ CharSet.blank) :
    boundName (text ++ rest) = (segmentsFrom isBlank before text rest).flatMap boundPart := by
  induction rest generalizing before text with
  | nil =>
    rw [boundName_word_append htext (by simp), segmentsFrom, List.flatMap_singleton]
    exact List.append_nil _
  | cons c rest ih =>
    rw [segmentsFrom]
    split
    next hc =>
      have hblank : Blank [c] := by simpa [Blank] using hc
      have hskip : boundName (c :: rest) = boundName rest := boundName_blank_append hblank rest
      have hrest : boundName rest =
          (segmentsFrom isBlank (before ++ text ++ [c]) [] rest).flatMap boundPart :=
        ih fun d hd => absurd hd List.not_mem_nil
      rw [boundName_word_append htext (by simpa using hc), hskip, hrest, List.flatMap_cons]
      rfl
    next hc =>
      have htext' : ∀ d ∈ text ++ [c], d ∉ CharSet.blank :=
        List.forall_mem_append.2 ⟨htext, by simpa using hc⟩
      rw [← ih htext', List.append_assoc, List.singleton_append]

theorem boundName_eq_flatMap (b : Text) : boundName b = (words b).flatMap boundPart := by
  have hsegments : boundName b = (segments isBlank b).flatMap boundPart :=
    boundName_segmentsFrom fun c hc => absurd hc List.not_mem_nil
  rw [hsegments, words]
  induction segments isBlank b with
  | nil => rfl
  | cons w l ih =>
    by_cases hw : w.text = []
    · rw [List.flatMap_cons, boundPart_of_text_eq_nil hw,
        List.filter_cons_of_neg (by simpa using hw)]
      exact ih
    · rw [List.flatMap_cons, ih, List.filter_cons_of_pos (by simpa using hw), List.flatMap_cons]

theorem not_noise_of_mem_boundName {c : Char} (h : c ∈ boundName b) :
    c ∉ CharSet.blank ∧ c ≠ '=' := by
  rw [boundName_eq_flatMap] at h
  obtain ⟨w, hw, hc⟩ := List.mem_flatMap.1 h
  obtain ⟨hmem, hassign⟩ := mem_of_mem_wordPart hc
  have hin := mem_segments.1 (List.mem_filter.1 hw).1
  exact ⟨by simpa using hin.unmarked c hmem, hassign⟩

/-- A text without blanks and equality signs is one word, and no space follows it. -/
theorem boundName_of_word {t : Text} (hsolid : ∀ c ∈ t, c ∉ CharSet.blank) (hassign : '=' ∉ t) :
    boundName t = t := by
  have h := boundName_word_append (r := []) hsolid (by simp)
  rw [List.append_nil, wordPart_of_not_suffix hassign (by simp)] at h
  exact h.trans (List.append_nil t)

/-- The name in a binding is what is left of its words, one after the other. It has no blanks and
no equality signs, and is the name in itself. -/
theorem boundName_words (b : Text) :
    boundName b = (words b).flatMap boundPart ∧
      (∀ w : Segment, w ∈ words b ↔ w.In isBlank b ∧ w.text ≠ []) ∧
      ((words b).Pairwise fun w w' => w.before.length < w'.before.length) ∧
      (∀ c ∈ boundName b, c ∉ CharSet.blank ∧ c ≠ '=') ∧
      boundName (boundName b) = boundName b := by
  have hname : ∀ c ∈ boundName b, c ∉ CharSet.blank ∧ c ≠ '=' := fun c =>
    not_noise_of_mem_boundName
  refine ⟨boundName_eq_flatMap b, ?_, (pairwise_segments isBlank b).filter _, hname, ?_⟩
  · intro w
    rw [words, List.mem_filter, mem_segments, decide_eq_true_eq]
  · exact boundName_of_word (fun c hc => (hname c hc).1) fun hc => (hname '=' hc).2 rfl

-- The two halves of `const` meet when the sign between them goes, and stay.
theorem boundName_words_halves :
    boundName "let  con=st x=var".toList = "constxvar".toList ∧
      't' ∈ "constxvar".toList ∧ 't' ∉ CharSet.blank ∧
      boundName "constxvar".toList = "constxvar".toList := by
  have hname : boundName "let  con=st x=var".toList = "constxvar".toList := by decide +kernel
  obtain ⟨-, -, -, hkept, hagain⟩ := boundName_words "let  con=st x=var".toList
  rw [hname] at hkept hagain
  have hmem : 't' ∈ "constxvar".toList := by decide
  exact ⟨hname, hmem, (hkept 't' hmem).1, hagain⟩

end Line

end SourceLine
