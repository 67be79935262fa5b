import SourceLine.Pattern.CharSet

/-!
# Characters of the sets

Letters are characters of identifiers, these are no blanks, and a typed header has no blanks
but tab and space.
-/

namespace SourceLine

theorem Text.isBlank_iff {c : Char} :
    Text.isBlank c = true ↔ ∃ r ∈ Text.blankRanges, r.1 ≤ c.toNat ∧ c.toNat ≤ r.2 :=
  CodeRanges.covers_iff (by decide)

namespace CharSet

variable {c : Char}

theorem forall_mem_of_all {s : CharSet} {t : Text} (h : t.all s.contains = true) :
    ∀ c ∈ t, c ∈ s :=
  List.all_eq_true.1 h

theorem mem_ofRanges_toNat {ranges : List CharRange} : c ∈ CharSet.ofRanges ranges ↔
    ∃ r ∈ ranges, r.first.toNat ≤ c.toNat ∧ c.toNat ≤ r.last.toNat := by
  simp only [mem_ofRanges, Char.le_def, UInt32.le_iff_toNat_le]
  rfl

theorem mem_letter_toNat :
    c ∈ letter ↔ 97 ≤ c.toNat ∧ c.toNat ≤ 122 ∨ 65 ≤ c.toNat ∧ c.toNat ≤ 90 := by
  rw [letter, mem_ofRanges_toNat]
  simp

theorem mem_word_toNat : c ∈ word ↔ 48 ≤ c.toNat ∧ c.toNat ≤ 57 ∨
    65 ≤ c.toNat ∧ c.toNat ≤ 90 ∨ 97 ≤ c.toNat ∧ c.toNat ≤ 122 ∨ c.toNat = 95 := by
  rw [word, mem_ofRanges_toNat]
  simp only [wordRanges, CharRange.single, List.mem_cons, List.not_mem_nil, or_false,
    exists_eq_or_imp, exists_eq_left, Char.reduceToNat]
  omega

theorem mem_typed :
    c ∈ typed ↔ c ∈ word ∨ c ∈ [':', ',', '<', '>', '\t', ' ', '[', ']'] := by
  rw [typed, mem_ofRanges, word, mem_ofRanges]
  simp only [List.mem_append, or_and_right, exists_or, List.mem_map]
  refine or_congr_right ⟨fun hc => ?_, fun hc => ?_⟩
  · obtain ⟨_, ⟨d, hd, rfl⟩, h, h'⟩ := hc
    exact Char.le_antisymm h' h ▸ hd
  · exact ⟨.single c, ⟨c, hc, rfl⟩, Char.le_refl c, Char.le_refl c⟩

theorem mem_word_of_mem_letter (h : c ∈ letter) : c ∈ word := by
  rw [mem_letter_toNat] at h
  rw [mem_word_toNat]
  omega

theorem not_mem_blank_of_mem_word (h : c ∈ word) : c ∉ blank := by
  rw [mem_word_toNat] at h
  rw [mem_blank, Text.isBlank_iff]
  simp only [Text.blankRanges, List.mem_cons, List.not_mem_nil, or_false, exists_eq_or_imp,
    exists_eq_left]
  omega

theorem not_mem_blank_of_all {t : Text} (h : t.all word.contains = true) :
    ∀ c ∈ t, c ∉ blank :=
  fun c hc => not_mem_blank_of_mem_word (forall_mem_of_all h c hc)

theorem blank_iff_of_mem_typed (h : c ∈ typed) : c ∈ blank ↔ c = '\t' ∨ c = ' ' := by
  constructor
  · intro hc
    rcases mem_typed.1 h with h | h
    · exact absurd hc (not_mem_blank_of_mem_word h)
    · have hall : [':', ',', '<', '>', '\t', ' ', '[', ']'].all
          (fun d => !blank.contains d || d == '\t' || d == ' ') = true := by decide
      simpa [mem_iff.1 hc] using List.all_eq_true.1 hall c h
  · intro hc
    rcases hc with rfl | rfl <;> decide

end CharSet

end SourceLine
