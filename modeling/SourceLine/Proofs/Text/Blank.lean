import Mathlib.Data.List.TakeWhile
import SourceLine.Proofs.Pattern.CharSet
import SourceLine.Proofs.Text.Break

/-!
# Texts between blanks

A part of a text that starts and ends with characters of its own is the same part of the text
with blanks around it. Where the text is cut at a keyword and a space, only a space right after
it could make a difference (`breakOn?_keyword_append`).
-/

namespace SourceLine.Text

variable {mark t u w k : Text} {c : Char}

theorem prefix_append_iff_of_getLast (hd : c ∈ t.getLast?) (hc : c ∉ w) :
    t <+: u ++ w ↔ t <+: u := by
  refine ⟨fun h => ?_, fun h => h.trans (List.prefix_append u w)⟩
  obtain ⟨z, hz⟩ := h
  rcases List.append_eq_append_iff.1 hz with ⟨x, rfl, -⟩ | ⟨x, rfl, rfl⟩
  · exact List.prefix_append t x
  · rcases List.eq_nil_or_concat x with rfl | ⟨x, d, rfl⟩
    · simp
    · obtain rfl : d = c := by simpa using hd
      simp at hc

theorem infix_append_iff_of_getLast (hd : c ∈ t.getLast?) (hc : c ∉ w) :
    t <:+: u ++ w ↔ t <:+: u := by
  refine ⟨fun h => ?_, fun h => h.trans (List.prefix_append u w).isInfix⟩
  obtain ⟨x, y, hxy⟩ := h
  have hlast : c ∈ (x ++ t).getLast? := by simp_all
  obtain ⟨z, hz⟩ := (prefix_append_iff_of_getLast hlast hc).1 ⟨y, hxy⟩
  exact ⟨x, z, hz⟩

theorem infix_append_iff_of_head (hd : c ∈ t.head?) (hc : c ∉ w) :
    t <:+: w ++ u ↔ t <:+: u := by
  refine ⟨fun h => ?_, fun h => h.trans (List.suffix_append w u).isInfix⟩
  obtain ⟨x, y, hxy⟩ := h
  rw [List.append_assoc] at hxy
  rcases List.append_eq_append_iff.1 hxy with ⟨z, rfl, hz⟩ | ⟨z, rfl, rfl⟩
  · cases z with
    | nil => exact ⟨[], y, by simpa using hz⟩
    | cons d z =>
      have hhead := congrArg List.head? hz
      rw [List.head?_append, hd] at hhead
      obtain rfl : c = d := by simpa using hhead
      simp at hc
  · exact ⟨z, y, by simp⟩

/-- The search for a mark passes over what does not have its first character. -/
theorem breakOn?_append_of_head (hd : c ∈ mark.head?) (hc : c ∉ w) :
    breakOn? mark (w ++ t) =
      (breakOn? mark t).map fun (before, after) => (w ++ before, after) := by
  obtain ⟨m, rfl⟩ := List.head?_eq_some_iff.1 hd
  induction w with
  | nil => simp
  | cons d w ih =>
    have hne : c ≠ d := fun he => hc (he ▸ List.mem_cons_self)
    have hpre : (c :: m).isPrefixOf? (d :: (w ++ t)) = none := by
      apply isPrefixOf?_eq_none
      simp [hne]
    rw [List.cons_append, breakOn?, hpre, ih fun h => hc (List.mem_cons_of_mem d h)]
    cases breakOn? (c :: m) t <;> rfl

/-- A text of blanks only. -/
def Blank (t : Text) : Prop :=
  ∀ c ∈ t, c ∈ CharSet.blank

instance (t : Text) : Decidable (Blank t) :=
  decidable_of_iff (t.all CharSet.blank.contains = true) List.all_eq_true

theorem Blank.notMem (hw : Blank w) (hc : c ∉ CharSet.blank := by decide) : c ∉ w :=
  fun h => hc (hw c h)

theorem Blank.space_cons (hw : Blank w) : Blank (' ' :: w) := by
  intro c hc
  rcases List.mem_cons.1 hc with rfl | hc
  · decide
  · exact hw c hc

theorem Blank.head (hw : Blank w) : ∀ c ∈ w.head?, c ∈ CharSet.blank :=
  fun c hc => hw c (List.mem_of_mem_head? hc)

section
variable (hk : k ≠ []) (hsolid : ∀ c ∈ k, c ∉ CharSet.blank) (hw : Blank w)
  (hspace : w.head? ≠ some ' ')
include hsolid hw hspace

theorem keyword_prefix_append_iff : k ++ [' '] <+: t ++ w ↔ k ++ [' '] <+: t := by
  refine ⟨fun h => ?_, fun h => h.trans (List.prefix_append t w)⟩
  obtain ⟨z, hz⟩ := h
  rcases List.append_eq_append_iff.1 hz with ⟨x, rfl, -⟩ | ⟨x, hx, rfl⟩
  · exact List.prefix_append ..
  · -- what the blanks have of the keyword is its space, as their first character
    rcases List.append_eq_append_iff.1 hx with ⟨y, rfl, hy⟩ | ⟨y, rfl, rfl⟩
    · rcases List.append_eq_singleton_iff.1 hy.symm with ⟨-, rfl⟩ | ⟨rfl, -⟩
      · simp at hspace
      · exact List.prefix_refl _
    · cases y with
      | nil => simp at hspace
      | cons d y =>
        have hd : d ∉ CharSet.blank := hsolid d (by simp)
        exact absurd (by simp) (hw.notMem hd)

include hk

theorem breakOn?_keyword_append : breakOn? (k ++ [' ']) (t ++ w) =
    (breakOn? (k ++ [' ']) t).map fun (before, after) => (before, after ++ w) := by
  induction t with
  | nil =>
    obtain ⟨c, k, rfl⟩ := List.exists_cons_of_ne_nil hk
    have hc : c ∉ w := hw.notMem (hsolid c List.mem_cons_self)
    have hw' : ¬ c :: k ++ [' '] <:+: w := fun h => hc (h.subset (by simp))
    rw [List.nil_append, breakOn?_eq_none hw', breakOn?_eq_none (by simp)]
    rfl
  | cons c t ih =>
    by_cases h : k ++ [' '] <+: c :: t
    · obtain ⟨rest, hrest⟩ := h
      have hne : k ++ [' '] ≠ [] := by simp
      rw [← hrest, List.append_assoc _ rest w, breakOn?_append hne, breakOn?_append hne]
      rfl
    · have h' : ¬ k ++ [' '] <+: c :: (t ++ w) := fun h' =>
        h ((keyword_prefix_append_iff hsolid hw hspace).1 h')
      rw [List.cons_append, breakOn?, breakOn?, isPrefixOf?_eq_none h, isPrefixOf?_eq_none h', ih]
      cases breakOn? (k ++ [' ']) t <;> rfl

/-- A keyword and a space stand in a line where they stand in the line between blanks. -/
theorem breakOn?_keyword_blanks {w₁ : Text} (h₁ : Blank w₁) :
    breakOn? (k ++ [' ']) (w₁ ++ t ++ w) =
      (breakOn? (k ++ [' ']) t).map fun (before, after) => (w₁ ++ before, after ++ w) := by
  obtain ⟨c, k, rfl⟩ := List.exists_cons_of_ne_nil hk
  have hc : c ∉ w₁ := h₁.notMem (hsolid c List.mem_cons_self)
  rw [breakOn?_keyword_append hk hsolid hw hspace, breakOn?_append_of_head rfl hc]
  exact Option.map_map ..

end

section
variable (hsolid : ∀ c ∈ k, c ∉ CharSet.blank) (ht : ' ' ∉ t)
include hsolid ht

/-- A keyword and a space start with a word and what a blank divides from it only if the word is
the keyword. -/
theorem keyword_prefix_word_iff (hw : ∀ c ∈ w.head?, c ∈ CharSet.blank) :
    k ++ [' '] <+: t ++ w ↔ k = t ∧ w.head? = some ' ' := by
  constructor
  · intro h
    obtain ⟨y, hy⟩ := h
    rw [List.append_assoc] at hy
    rcases List.append_eq_append_iff.1 hy with ⟨z, rfl, hz⟩ | ⟨z, rfl, rfl⟩
    · cases z with
      | nil => exact ⟨by simp, by rw [← show ' ' :: y = w from hz]; rfl⟩
      | cons d z =>
        obtain ⟨rfl, -⟩ := List.cons_eq_cons.1 hz
        simp at ht
    · cases z with
      | nil => exact ⟨by simp, rfl⟩
      | cons d z => exact absurd (hw d rfl) (hsolid d (by simp))
  · intro h
    obtain ⟨rfl, hspace⟩ := h
    obtain ⟨w, rfl⟩ := List.head?_eq_some_iff.1 hspace
    exact ⟨w, by simp⟩

theorem keyword_infix_word_iff (hw : Blank w) (hk : k ≠ []) :
    k ++ [' '] <:+: t ++ w ↔ k <:+ t ∧ w.head? = some ' ' := by
  constructor
  · intro h
    obtain ⟨x, y, hxy⟩ := h
    rw [List.append_assoc] at hxy
    rcases List.append_eq_append_iff.1 hxy with ⟨z, rfl, hz⟩ | ⟨z, rfl, rfl⟩
    · have hz' : ' ' ∉ z := fun h => ht (List.mem_append_right x h)
      obtain ⟨rfl, hspace⟩ := (keyword_prefix_word_iff hsolid hz' hw.head).1 ⟨y, hz⟩
      exact ⟨List.suffix_append x k, hspace⟩
    · obtain ⟨c, k, rfl⟩ := List.exists_cons_of_ne_nil hk
      exact absurd (hw c (by simp)) (hsolid c List.mem_cons_self)
  · intro h
    obtain ⟨⟨x, rfl⟩, hspace⟩ := h
    obtain ⟨w, rfl⟩ := List.head?_eq_some_iff.1 hspace
    exact ⟨x, w, by simp⟩

end

theorem takeWhile_append_of_forall_not {p : Char → Bool} (h : ∀ c ∈ w, p c = false) :
    (t ++ w).takeWhile p = t.takeWhile p := by
  have hw : w.takeWhile p = [] := by
    cases w with
    | nil => rfl
    | cons c w => simp [h c]
  rw [List.takeWhile_append, hw, List.append_nil]
  split
  next hlength => exact ((List.takeWhile_prefix p).eq_of_length hlength).symm
  next => rfl

theorem firstWord_append_blank (hw : Blank w) : firstWord (t ++ w) = firstWord t := by
  have hdrop : w.dropWhile isBlank = [] := List.dropWhile_eq_nil_iff.2 hw
  rw [firstWord, firstWord, List.dropWhile_append]
  split
  next h => rw [hdrop, List.isEmpty_iff.1 h]
  next =>
    apply takeWhile_append_of_forall_not
    intro c hc
    simpa using hw c hc

theorem firstWord_blank_append (hw : Blank w) : firstWord (w ++ t) = firstWord t := by
  have hw : ∀ c ∈ w, isBlank c = true := hw
  rw [firstWord, List.dropWhile_append_of_pos hw, firstWord]

/-- A word is read up to the blank that ends it. -/
theorem firstWord_append (hne : t ≠ []) (hsolid : ∀ c ∈ t, c ∉ CharSet.blank)
    (hw : ∀ c ∈ w.head?, c ∈ CharSet.blank) : firstWord (t ++ w) = t := by
  have hsolid' : ∀ c ∈ t, (!isBlank c) = true := by simpa using hsolid
  have hword : w.takeWhile (!isBlank ·) = [] := by
    cases w with
    | nil => rfl
    | cons d w =>
      have hd : isBlank d = true := hw d rfl
      simp [hd]
  obtain ⟨c, t, rfl⟩ := List.exists_cons_of_ne_nil hne
  have hc : isBlank c = false := by simpa using hsolid c List.mem_cons_self
  have hdrop : (c :: t ++ w).dropWhile isBlank = c :: t ++ w := by simp [hc]
  rw [firstWord, hdrop, List.takeWhile_append_of_pos hsolid', hword, List.append_nil]

theorem withoutBlanks_of_blank (hw : Blank w) : withoutBlanks w = [] := by
  apply List.filter_eq_nil_iff.2
  intro c hc
  simpa using hw c hc

theorem withoutBlanks_blank_append (hw : Blank w) : withoutBlanks (w ++ t) = withoutBlanks t := by
  rw [withoutBlanks, List.filter_append]
  exact congrArg (· ++ withoutBlanks t) (withoutBlanks_of_blank hw)

theorem withoutBlanks_append_blank (hw : Blank w) : withoutBlanks (t ++ w) = withoutBlanks t := by
  rw [withoutBlanks, List.filter_append]
  exact (congrArg (withoutBlanks t ++ ·) (withoutBlanks_of_blank hw)).trans (List.append_nil _)

theorem withoutBlanks_of_word (ht : ∀ c ∈ t, c ∈ CharSet.word) : withoutBlanks t = t := by
  apply List.filter_eq_self.2
  intro c hc
  simpa using CharSet.not_mem_blank_of_mem_word (ht c hc)

theorem withoutBlanks_takeWhile_append (hw : Blank w) (p : Char → Bool) :
    withoutBlanks ((t ++ w).takeWhile p) = withoutBlanks (t.takeWhile p) := by
  rw [List.takeWhile_append]
  split
  next h =>
    have hblank : Blank (w.takeWhile p) := fun c hc => hw c ((List.takeWhile_prefix p).subset hc)
    rw [(List.takeWhile_prefix p).eq_of_length h, withoutBlanks_append_blank hblank]
  next => rfl

theorem withoutBlanks_upTo_append (hk : k ≠ []) (hsolid : ∀ c ∈ k, c ∉ CharSet.blank)
    (hw : Blank w) (hspace : w.head? ≠ some ' ') (p : Char → Bool) :
    withoutBlanks ((upTo (k ++ [' ']) (t ++ w)).takeWhile p) =
      withoutBlanks ((upTo (k ++ [' ']) t).takeWhile p) := by
  rw [upTo, upTo, breakOn?_keyword_append hk hsolid hw hspace]
  cases breakOn? (k ++ [' ']) t with
  | none => exact withoutBlanks_takeWhile_append hw p
  | some x => rfl

end SourceLine.Text
