import SourceLine.Proofs.Pattern.Denotes
import SourceLine.Shape

/-!
# Texts of the shapes

The languages of the shapes, written out. Three of the shapes are one: what stands before the
parameters, the parameters, and the brace (`language_opening`).
-/

namespace SourceLine.Shape

open Pattern

variable {before after : Option Char} {t : Text}

theorem denotes_parenthesized :
    parenthesized.Denotes before t after ↔ ∃ x, '\n' ∉ x ∧ t = '(' :: x ++ [')'] := by
  constructor
  · intro h
    obtain ⟨_, _, rfl, ⟨_, x, rfl, rfl, hx⟩, rfl⟩ := h
    have hx := denotes_many.1 hx
    exact ⟨x, fun hc => CharSet.mem_inLine.1 (hx _ hc) rfl, rfl⟩
  · intro h
    obtain ⟨x, hx, rfl⟩ := h
    refine ⟨'(' :: x, [')'], rfl, ⟨['('], x, rfl, rfl, denotes_many.2 fun c hc => ?_⟩, rfl⟩
    exact CharSet.mem_inLine.2 fun he => hx (he ▸ hc)

theorem denotes_openingBrace : openingBrace.Denotes before t after ↔
    ∃ w, (∀ c ∈ w, c ∈ CharSet.blank) ∧ t = w ++ ['{'] := by
  constructor
  · intro h
    obtain ⟨w, _, rfl, hw, rfl⟩ := h
    exact ⟨w, denotes_many.1 hw, rfl⟩
  · intro h
    obtain ⟨w, hw, rfl⟩ := h
    exact ⟨w, ['{'], rfl, denotes_many.2 hw, rfl⟩

theorem language_opening {p : Pattern} (hp : p.boundaryFree = true) :
    (p ++ parenthesized ++ openingBrace).Language t ↔ ∃ u x w, p.Language u ∧ '\n' ∉ x ∧
      (∀ c ∈ w, c ∈ CharSet.blank) ∧ t = u ++ '(' :: x ++ ')' :: w ++ ['{'] := by
  constructor
  · intro h
    obtain ⟨_, _, rfl, ⟨u, _, rfl, hu, hq⟩, hb⟩ := h
    obtain ⟨x, hx, rfl⟩ := denotes_parenthesized.1 hq
    obtain ⟨w, hw, rfl⟩ := denotes_openingBrace.1 hb
    exact ⟨u, x, w, hu.of_boundaryFree hp _ _, hx, hw, by simp⟩
  · intro h
    obtain ⟨u, x, w, hu, hx, hw, rfl⟩ := h
    refine ⟨u ++ ('(' :: x ++ [')']), w ++ ['{'], by simp, ⟨u, _, rfl, ?_, ?_⟩, ?_⟩
    · exact hu.of_boundaryFree hp _ _
    · exact denotes_parenthesized.2 ⟨x, hx, rfl⟩
    · exact denotes_openingBrace.2 ⟨w, hw, rfl⟩

theorem language_classHeader : classHeader.pattern.Language t ↔
    ∃ w n x, w ≠ [] ∧ (∀ c ∈ w, c ∈ CharSet.blank) ∧ n ≠ [] ∧ (∀ c ∈ n, c ∈ CharSet.letter) ∧
      '\n' ∉ x ∧ t = "class".toList ++ w ++ n ++ x ++ ['{'] := by
  constructor
  · intro h
    obtain ⟨_, _, rfl, ⟨_, x, rfl, ⟨_, n, rfl, ⟨_, w, rfl, rfl, hw⟩, hn⟩, hx⟩, rfl⟩ := h
    obtain ⟨hw, hw'⟩ := denotes_many1.1 hw
    obtain ⟨hn, hn'⟩ := denotes_many1.1 hn
    have hx := denotes_many.1 hx
    exact ⟨w, n, x, hw, hw', hn, hn', fun hc => CharSet.mem_inLine.1 (hx _ hc) rfl, rfl⟩
  · intro h
    obtain ⟨w, n, x, hw, hw', hn, hn', hx, rfl⟩ := h
    refine ⟨_, _, rfl, ⟨_, x, rfl, ⟨_, n, rfl, ⟨_, w, rfl, rfl, ?_⟩, ?_⟩, ?_⟩, rfl⟩
    · exact denotes_many1.2 ⟨hw, hw'⟩
    · exact denotes_many1.2 ⟨hn, hn'⟩
    · exact denotes_many.2 fun c hc => CharSet.mem_inLine.2 fun he => hx (he ▸ hc)

/-- The boundary is always there: the name ends with a character of identifiers, and the
parenthesis is none. -/
theorem denotes_typedHeader : typedHeader.pattern.Denotes before t after ↔
    ∃ n x y, ((∀ c ∈ n, c ∈ CharSet.word) ∧ 1 ≤ n.length ∧ n.length ≤ 200) ∧
      ((∀ c ∈ x, c ∈ CharSet.typed) ∧ x.length ≤ 200) ∧
      ((∀ c ∈ y, c ∈ CharSet.typed) ∧ y.length ≤ 200) ∧
      t = n ++ '(' :: x ++ ')' :: y ++ ['{'] := by
  constructor
  · intro h
    obtain ⟨_, _, rfl, ⟨_, y, rfl, ⟨_, _, rfl, ⟨_, x, rfl, ⟨_, _, rfl, ⟨n, _, rfl, hn, rfl, -⟩,
      rfl⟩, hx⟩, rfl⟩, hy⟩, rfl⟩ := h
    obtain ⟨hn, hn'⟩ := (denotes_betweenFewest (by decide)).1 (denotes_group.1 hn)
    obtain ⟨hx, -, hx'⟩ := (denotes_between (by decide)).1 (denotes_group.1 hx)
    obtain ⟨hy, -, hy'⟩ := (denotes_between (by decide)).1 (denotes_group.1 hy)
    exact ⟨n, x, y, ⟨hn, hn'⟩, ⟨hx, hx'⟩, ⟨hy, hy'⟩, by simp⟩
  · intro h
    obtain ⟨n, x, y, ⟨hn, hn'⟩, ⟨hx, hx'⟩, ⟨hy, hy'⟩, rfl⟩ := h
    refine ⟨n ++ [] ++ ['('] ++ x ++ [')'] ++ y, ['{'], by simp, ⟨_, y, rfl, ⟨_, _, rfl,
      ⟨_, x, rfl, ⟨_, _, rfl, ⟨n, _, rfl, ?_, rfl, ?_⟩, rfl⟩, ?_⟩, rfl⟩, ?_⟩, rfl⟩
    · exact denotes_group.2 ((denotes_betweenFewest (by decide)).2 ⟨hn, hn'⟩)
    · obtain ⟨c, hc⟩ : ∃ c, n.getLast? = some c := by
        have hne := List.length_pos_iff.1 hn'.1
        exact ⟨n.getLast hne, List.getLast?_eq_some_getLast hne⟩
      have hword : CharSet.word.contains c = true := hn c (List.mem_of_getLast? hc)
      have hparen : CharSet.word.contains '(' = false := by decide
      simp [hc, isBoundary, isWord, hword, hparen]
    · exact denotes_group.2 ((denotes_between (by decide)).2 ⟨hx, Nat.zero_le _, hx'⟩)
    · exact denotes_group.2 ((denotes_between (by decide)).2 ⟨hy, Nat.zero_le _, hy'⟩)

theorem language_keywordFunction : keywordFunction.pattern.Language t ↔
    ∃ w n v x u, w ≠ [] ∧ (∀ c ∈ w, c ∈ CharSet.blank) ∧ n ≠ [] ∧ (∀ c ∈ n, c ∈ CharSet.letter) ∧
      (∀ c ∈ v, c ∈ CharSet.blank) ∧ '\n' ∉ x ∧ (∀ c ∈ u, c ∈ CharSet.blank) ∧
      t = "function".toList ++ w ++ n ++ v ++ '(' :: x ++ ')' :: u ++ ['{'] := by
  constructor
  · intro h
    obtain ⟨_, x, u, ⟨_, v, rfl, ⟨_, n, rfl, ⟨_, w, rfl, rfl, hw⟩, hn⟩, hv⟩, hx, hu, rfl⟩ :=
      (language_opening rfl).1 h
    obtain ⟨hw, hw'⟩ := denotes_many1.1 hw
    obtain ⟨hn, hn'⟩ := denotes_many1.1 hn
    exact ⟨w, n, v, x, u, hw, hw', hn, hn', denotes_many.1 hv, hx, hu, rfl⟩
  · intro h
    obtain ⟨w, n, v, x, u, hw, hw', hn, hn', hv, hx, hu, rfl⟩ := h
    refine (language_opening rfl).2
      ⟨_, x, u, ⟨_, v, rfl, ⟨_, n, rfl, ⟨_, w, rfl, rfl, ?_⟩, ?_⟩, ?_⟩, hx, hu, rfl⟩
    · exact denotes_many1.2 ⟨hw, hw'⟩
    · exact denotes_many1.2 ⟨hn, hn'⟩
    · exact denotes_many.2 hv

theorem language_boundFunction : boundFunction.pattern.Language t ↔
    ∃ n w v f u m z x y r b, n ≠ [] ∧ (∀ c ∈ n, c ∈ CharSet.letter) ∧
      (∀ c ∈ w, c ∈ CharSet.blank) ∧ (∀ c ∈ v, c ∈ CharSet.blank) ∧
      (f = "function".toList ∨ f = []) ∧ (∀ c ∈ u, c ∈ CharSet.blank) ∧
      (∀ c ∈ m, c ∈ CharSet.letter) ∧ (∀ c ∈ z, c ∈ CharSet.blank) ∧ '\n' ∉ x ∧
      (∀ c ∈ y, c ∈ CharSet.blank) ∧ (r = "=>".toList ∨ r = []) ∧ (∀ c ∈ b, c ∈ CharSet.blank) ∧
      t = n ++ w ++ '=' :: (v ++ f ++ u ++ m ++ z) ++ '(' :: x ++ ')' :: (y ++ r ++ b) ++
        ['{'] := by
  constructor
  · intro h
    obtain ⟨_, _, rfl, ⟨_, r, rfl, ⟨_, y, rfl, ⟨_, _, rfl, ⟨_, z, rfl, ⟨_, m, rfl, ⟨_, u, rfl,
      ⟨_, f, rfl, ⟨_, v, rfl, ⟨_, _, rfl, ⟨n, w, rfl, hname, hw⟩, rfl⟩, hv⟩, hf⟩, hu⟩, hm⟩, hz⟩,
      hparams⟩, hy⟩, hr⟩, hbrace⟩ := h
    obtain ⟨x, hx, rfl⟩ := denotes_parenthesized.1 hparams
    obtain ⟨b, hb, rfl⟩ := denotes_openingBrace.1 hbrace
    obtain ⟨hn, hn'⟩ := denotes_many1.1 hname
    exact ⟨n, w, v, f, u, m, z, x, y, r, b, hn, hn', denotes_many.1 hw, denotes_many.1 hv, hf,
      denotes_many.1 hu, denotes_many.1 hm, denotes_many.1 hz, hx, denotes_many.1 hy, hr, hb,
      by simp⟩
  · intro h
    obtain ⟨n, w, v, f, u, m, z, x, y, r, b, hn, hn', hw, hv, hf, hu, hm, hz, hx, hy, hr, hb,
      rfl⟩ := h
    refine ⟨n ++ w ++ ['='] ++ v ++ f ++ u ++ m ++ z ++ ('(' :: x ++ [')']) ++ y ++ r, b ++ ['{'],
      by simp, ⟨_, r, rfl, ⟨_, y, rfl, ⟨_, _, rfl, ⟨_, z, rfl, ⟨_, m, rfl, ⟨_, u, rfl,
      ⟨_, f, rfl, ⟨_, v, rfl, ⟨_, _, rfl, ⟨n, w, rfl, ?_, ?_⟩, rfl⟩, ?_⟩, hf⟩, ?_⟩, ?_⟩, ?_⟩, ?_⟩,
      ?_⟩, hr⟩, ?_⟩
    · exact denotes_many1.2 ⟨hn, hn'⟩
    · exact denotes_many.2 hw
    · exact denotes_many.2 hv
    · exact denotes_many.2 hu
    · exact denotes_many.2 hm
    · exact denotes_many.2 hz
    · exact denotes_parenthesized.2 ⟨x, hx, rfl⟩
    · exact denotes_many.2 hy
    · exact denotes_openingBrace.2 ⟨b, hb, rfl⟩

theorem language_bindingNoise : bindingNoise.pattern.Language t ↔
    t ∈ ["const ", "var ", "let ", "="].map String.toList ∨
      t ≠ [] ∧ ∀ c ∈ t, c ∈ CharSet.blank := by
  simp only [Pattern.Language, pattern, denotes_alt, denotes_lit, denotes_many1, List.map_cons,
    List.map_nil, List.mem_cons, List.not_mem_nil, or_false, or_assoc]

end SourceLine.Shape
