import Mathlib.Data.List.Basic
import Mathlib.Data.List.DropRight
import SourceLine.Text.Basic

/-!
# Cutting a text at a mark

A character that the mark does not have separates a text: an occurrence of the mark lies on one
side of it (`infix_append_cons_iff`), and the search for the first one passes over a side that
has none (`breakOn?_append_cons`).
-/

namespace SourceLine.Text

variable {mark a b t : Text} {c : Char}

theorem prefix_of_prefix_append_cons (h : mark <+: a ++ c :: b) (hc : c ∉ mark) : mark <+: a := by
  obtain ⟨w, hw⟩ := h
  rcases List.append_eq_append_iff.1 hw with ⟨x, ha, -⟩ | ⟨x, rfl, hx⟩
  · exact ⟨x, ha.symm⟩
  · cases x with
    | nil => simp
    | cons d x =>
      obtain ⟨rfl, -⟩ := List.cons_eq_cons.1 hx
      simp at hc

/-! ## Where a character stands in a text of two parts -/

theorem append_cons_eq_append_of_notMem_left {x y : Text} (h : x ++ c :: y = a ++ b)
    (hc : c ∉ a) : ∃ z, x = a ++ z ∧ b = z ++ c :: y := by
  rcases List.append_eq_append_iff.1 h with ⟨z, rfl, hz⟩ | h
  · cases z with
    | nil => exact ⟨[], by simp, hz.symm⟩
    | cons d z =>
      obtain ⟨rfl, -⟩ := List.cons_eq_cons.1 hz
      simp at hc
  · exact h

theorem append_cons_eq_append_of_notMem_right {x y : Text} (h : x ++ c :: y = a ++ b)
    (hc : c ∉ b) : ∃ z, a = x ++ c :: z ∧ y = z ++ b := by
  rcases List.append_eq_append_iff.1 h with ⟨z, rfl, hz⟩ | ⟨z, rfl, rfl⟩
  · cases z with
    | nil =>
      rw [List.nil_append] at hz
      simp [← hz] at hc
    | cons d z =>
      obtain ⟨rfl, rfl⟩ := List.cons_eq_cons.1 hz
      exact ⟨z, rfl, rfl⟩
  · simp at hc

/-- A text is cut in one way only at the last place of a character. -/
theorem append_cons_inj_of_notMem_right {x y x' y' : Text} (h : x ++ c :: y = x' ++ c :: y')
    (hy : c ∉ y) (hy' : c ∉ y') : x = x' ∧ y = y' := by
  rcases List.append_eq_append_iff.1 h with ⟨z, rfl, hz⟩ | ⟨z, rfl, hz⟩
  · cases z with
    | nil => exact ⟨by simp, (List.cons_eq_cons.1 hz).2⟩
    | cons d z => simp [(List.cons_eq_cons.1 hz).2] at hy
  · cases z with
    | nil => exact ⟨by simp, (List.cons_eq_cons.1 hz).2.symm⟩
    | cons d z => simp [(List.cons_eq_cons.1 hz).2] at hy'

theorem exists_append_cons_of_mem_last (h : c ∈ t) : ∃ x y, t = x ++ c :: y ∧ c ∉ y := by
  obtain ⟨y, x, hxy, hy⟩ := List.eq_append_cons_of_mem (List.mem_reverse.2 h)
  refine ⟨x.reverse, y.reverse, ?_, by simpa using hy⟩
  rw [← List.reverse_reverse t, hxy]
  simp

theorem bne_of_notMem (h : c ∉ t) : ∀ d ∈ t, (d != c) = true := by
  intro d hd
  simpa using fun he : d = c => h (he ▸ hd)

theorem rdropWhile_append_of_forall {u : Text} {p : Char → Bool} (h : ∀ c ∈ u, p c = true) :
    (t ++ u).rdropWhile p = t.rdropWhile p := by
  rw [List.rdropWhile, List.reverse_append, List.dropWhile_append_of_pos (by simpa using h),
    List.rdropWhile]

theorem takeWhile_append_prefix {d : Char} {p : Char → Bool} (hd : ¬ p d = true) (u : Text) :
    (t ++ d :: u).takeWhile p <+: t := by
  rw [List.takeWhile_append]
  split
  · simp [hd]
  · exact List.takeWhile_prefix p

theorem prefix_rdropWhile_append {d : Char} {p : Char → Bool} (hd : ¬ p d = true) (u : Text) :
    t ++ [d] <+: (t ++ d :: u).rdropWhile p := by
  induction u using List.reverseRecOn with
  | nil =>
    simp [List.rdropWhile_concat_neg p t d hd]
  | append_singleton u e ih =>
    rw [show t ++ d :: (u ++ [e]) = t ++ d :: u ++ [e] by simp, List.rdropWhile_concat]
    split
    · exact ih
    · exact ⟨u ++ [e], by simp⟩

/-- A part of a text lies on one side of a character, or has it. -/
theorem infix_append_cons_cases :
    t <:+: a ++ c :: b ↔ t <:+: a ∨ t <:+: b ∨ ∃ u v, t = u ++ c :: v ∧ u <:+ a ∧ v <+: b := by
  constructor
  · intro h
    obtain ⟨x, y, hxy⟩ := h
    rcases List.append_eq_append_iff.1 hxy with ⟨z, rfl, -⟩ | ⟨z, hz, hy⟩
    · exact .inl ⟨x, z, rfl⟩
    · cases z with
      | nil => exact .inl ⟨x, [], by simpa using hz⟩
      | cons d z =>
        obtain ⟨rfl, rfl⟩ := List.cons_eq_cons.1 hy
        -- `t` ends behind `c`; it has `c` unless it starts behind it too
        rcases List.append_eq_append_iff.1 hz with ⟨w, rfl, rfl⟩ | ⟨w, rfl, hw⟩
        · exact .inr (.inr ⟨w, z, rfl, List.suffix_append .., List.prefix_append ..⟩)
        · cases w with
          | nil => exact .inr (.inr ⟨[], z, hw.symm, List.nil_suffix .., List.prefix_append ..⟩)
          | cons d w =>
            obtain ⟨rfl, rfl⟩ := List.cons_eq_cons.1 hw
            exact .inr (.inl ⟨w, y, rfl⟩)
  · intro h
    rcases h with h | h | ⟨u, v, rfl, ⟨x, rfl⟩, y, rfl⟩
    · exact h.trans (List.prefix_append ..).isInfix
    · exact h.trans ((List.suffix_cons ..).trans (List.suffix_append ..)).isInfix
    · exact ⟨x, y, by simp⟩

theorem infix_append_cons_iff (hc : c ∉ mark) :
    mark <:+: a ++ c :: b ↔ mark <:+: a ∨ mark <:+: b := by
  rw [infix_append_cons_cases]
  refine or_congr_right (or_iff_left ?_)
  rintro ⟨u, v, rfl, -⟩
  simp at hc

theorem suffix_append_cons_iff (hc : c ∉ mark) : mark <:+ a ++ c :: b ↔ mark <:+ b := by
  constructor
  · intro h
    obtain ⟨x, hx⟩ := h
    rcases List.append_eq_append_iff.1 hx with ⟨z, -, rfl⟩ | ⟨z, rfl, hz⟩
    · simp at hc
    · cases z with
      | nil => rw [List.nil_append] at hz; simp [← hz] at hc
      | cons d z =>
        obtain ⟨rfl, rfl⟩ := List.cons_eq_cons.1 hz
        exact List.suffix_append z mark
  · intro h
    exact h.trans ((List.suffix_cons c b).trans (List.suffix_append a (c :: b)))

theorem breakOn?_append (h : mark ≠ []) : breakOn? mark (mark ++ t) = some ([], t) := by
  obtain ⟨c, mark, rfl⟩ := List.exists_cons_of_ne_nil h
  have hpre : (c :: mark).isPrefixOf? (c :: (mark ++ t)) = some t := by simp
  rw [List.cons_append, breakOn?, hpre]

theorem isPrefixOf?_eq_none (h : ¬ mark <+: t) : mark.isPrefixOf? t = none := by
  apply Option.eq_none_iff_forall_ne_some.2
  intro v hv
  exact h ⟨v, List.isPrefixOf?_eq_some_iff_append_eq.1 hv⟩

theorem breakOn?_eq_none (h : ¬ mark <:+: t) : breakOn? mark t = none := by
  have hpre : mark.isPrefixOf? t = none := isPrefixOf?_eq_none fun ht => h ht.isInfix
  induction t with
  | nil => rw [breakOn?, hpre]; rfl
  | cons c t ih =>
    have htail : ¬ mark <:+: t := fun ht => h (ht.trans (List.suffix_cons c t).isInfix)
    rw [breakOn?, hpre, ih htail (isPrefixOf?_eq_none fun ht => htail ht.isInfix)]
    rfl

theorem eq_append_of_breakOn? (h : breakOn? mark t = some (a, b)) : t = a ++ (mark ++ b) := by
  induction t generalizing a with
  | nil =>
    obtain ⟨rest, hrest, heq⟩ := Option.map_eq_some_iff.1 h
    obtain ⟨rfl, rfl⟩ := Prod.mk.inj heq
    exact (List.isPrefixOf?_eq_some_iff_append_eq.1 hrest).symm
  | cons c t ih =>
    rw [breakOn?] at h
    split at h
    next rest hrest =>
      cases h
      exact (List.isPrefixOf?_eq_some_iff_append_eq.1 hrest).symm
    next =>
      obtain ⟨⟨a, b⟩, hab, heq⟩ := Option.map_eq_some_iff.1 h
      obtain ⟨rfl, rfl⟩ := Prod.mk.inj heq
      rw [ih hab]
      rfl

theorem isSome_breakOn?_iff : (breakOn? mark t).isSome ↔ mark <:+: t := by
  refine ⟨fun h => ?_, fun h => ?_⟩
  · obtain ⟨⟨a, b⟩, hab⟩ := Option.isSome_iff_exists.1 h
    exact ⟨a, b, by rw [eq_append_of_breakOn? hab, List.append_assoc]⟩
  · induction t with
    | nil => simp [breakOn?, List.infix_nil.1 h]
    | cons c t ih =>
      rw [breakOn?]
      split
      next => rfl
      next hpre =>
        rcases List.infix_cons_iff.1 h with ⟨rest, hrest⟩ | h
        · cases hpre.symm.trans (List.isPrefixOf?_eq_some_iff_append_eq.2 hrest)
        · rw [Option.isSome_map]
          exact ih h

/-- The search stops at a mark whose first character does not come again in it. -/
theorem breakOn?_append_mark {m : Text} (hc : c ∉ m) (ha : ¬ c :: m <:+: a) :
    breakOn? (c :: m) (a ++ (c :: m ++ t)) = some (a, t) := by
  induction a with
  | nil => exact breakOn?_append (List.cons_ne_nil c m)
  | cons d a ih =>
    have hpre : (c :: m).isPrefixOf? (d :: (a ++ (c :: m ++ t))) = none := by
      apply isPrefixOf?_eq_none
      intro h
      obtain ⟨hd, hm⟩ := List.cons_prefix_cons.1 h
      have hm : m <+: a := prefix_of_prefix_append_cons hm hc
      exact ha (List.cons_prefix_cons.2 ⟨hd, hm⟩).isInfix
    rw [List.cons_append, breakOn?, hpre, ih fun h => ha (h.trans (List.suffix_cons d a).isInfix)]
    rfl

/-- A text is cut at the first place of a character. -/
theorem breakOn?_singleton_iff : breakOn? [c] t = some (a, b) ↔ t = a ++ c :: b ∧ c ∉ a := by
  have hfirst : ∀ {x y : Text}, c ∉ x → breakOn? [c] (x ++ c :: y) = some (x, y) := fun hx =>
    breakOn?_append_mark List.not_mem_nil fun hc => hx (hc.subset List.mem_cons_self)
  constructor
  · intro h
    have ht : t = a ++ c :: b := eq_append_of_breakOn? h
    refine ⟨ht, ?_⟩
    have hc : c ∈ t := by simp [ht]
    obtain ⟨x, y, hxy, hx⟩ := List.eq_append_cons_of_mem hc
    rw [hxy, hfirst hx] at h
    cases h
    exact hx
  · intro h
    obtain ⟨rfl, ha⟩ := h
    exact hfirst ha

/-- A text is cut in one way only at the first place of a character. -/
theorem append_cons_inj_of_notMem_left {x y x' y' : Text} (h : x ++ c :: y = x' ++ c :: y')
    (hx : c ∉ x) (hx' : c ∉ x') : x = x' ∧ y = y' := by
  have hcut : breakOn? [c] (x ++ c :: y) = some (x, y) := breakOn?_singleton_iff.2 ⟨rfl, hx⟩
  have hcut' : breakOn? [c] (x ++ c :: y) = some (x', y') := breakOn?_singleton_iff.2 ⟨h, hx'⟩
  cases hcut.symm.trans hcut'
  exact ⟨rfl, rfl⟩

theorem breakOn?_append_cons (hc : c ∉ mark) (ha : ¬ mark <:+: a) :
    breakOn? mark (a ++ c :: t) =
      (breakOn? mark t).map fun (before, after) => (a ++ c :: before, after) := by
  have hpre : ∀ {u}, ¬ mark <:+: u → mark.isPrefixOf? (u ++ c :: t) = none := fun hu =>
    isPrefixOf?_eq_none fun h => hu (prefix_of_prefix_append_cons h hc).isInfix
  induction a with
  | nil => rw [List.nil_append, breakOn?, ← List.nil_append (c :: t), hpre ha]; rfl
  | cons d a ih =>
    have hd := hpre ha
    rw [List.cons_append] at hd ⊢
    rw [breakOn?, hd, ih fun h => ha (h.trans (List.suffix_cons d a).isInfix)]
    cases breakOn? mark t <;> rfl

theorem prefix_upTo (mark t : Text) : upTo mark t <+: t := by
  rw [upTo]
  cases h : breakOn? mark t with
  | none => exact List.prefix_refl t
  | some x => exact ⟨mark ++ x.2, (eq_append_of_breakOn? h).symm⟩

theorem upTo_append_cons (hc : c ∉ mark) (ha : ¬ mark <:+: a) :
    upTo mark (a ++ c :: t) = a ++ c :: upTo mark t := by
  rw [upTo, upTo, breakOn?_append_cons hc ha]
  cases breakOn? mark t <;> rfl

end SourceLine.Text
