import SourceLine.Proofs.Text.Break
import SourceLine.Text.Quoted

/-!
# Reading quoted texts

A quoted text shows which text was quoted, whatever this text is. The quoted form of a character
starts with a backslash exactly if it is an escape, and no escape is the beginning of another one,
so the first character can be told from the quoted form of a text, and then the rest
(`quotedChar_append_inj`, `quoted_inj`). A quoted text has no control characters.
-/

namespace SourceLine.Text

variable {c d : Char} {t u x y e e' : Text} {m n : Nat}

/-! ## Hexadecimal digits -/

theorem digitChar_inj (hm : m < 16) (hn : n < 16) (h : m.digitChar = n.digitChar) : m = n := by
  have hall : ∀ m n : Fin 16, m.val.digitChar = n.val.digitChar → m = n := by decide
  exact Fin.mk.inj (hall ⟨m, hm⟩ ⟨n, hn⟩ h)

theorem mem_toDigits (h : c ∈ Nat.toDigits 16 n) : ∃ k < 16, c = k.digitChar := by
  induction n using Nat.strongRecOn with
  | ind n ih =>
    rw [Nat.toDigits_eq_if (by decide)] at h
    split at h
    next hlt => exact ⟨n, hlt, List.mem_singleton.1 h⟩
    next hge =>
      rcases List.mem_append.1 h with h | h
      · exact ih (n / 16) (by omega) h
      · exact ⟨n % 16, Nat.mod_lt n (by decide), List.mem_singleton.1 h⟩

theorem toDigits_inj (h : Nat.toDigits 16 m = Nat.toDigits 16 n) : m = n := by
  have hlong : ∀ k, ¬ k < 16 → Nat.toDigits 16 k =
      Nat.toDigits 16 (k / 16) ++ [(k % 16).digitChar] := fun k hk => by
    rw [Nat.toDigits_eq_if (by decide), if_neg hk]
  have hshort : ∀ k, k < 16 → Nat.toDigits 16 k = [] ++ [k.digitChar] := fun k hk =>
    Nat.toDigits_of_lt_base hk
  induction m using Nat.strongRecOn generalizing n with
  | ind m ih =>
    by_cases hm : m < 16 <;> by_cases hn : n < 16
    · rw [hshort m hm, hshort n hn] at h
      exact digitChar_inj hm hn (List.append_singleton_inj.1 h).2
    · rw [hshort m hm, hlong n hn] at h
      exact absurd (List.append_singleton_inj.1 h).1.symm Nat.toDigits_ne_nil
    · rw [hlong m hm, hshort n hn] at h
      exact absurd (List.append_singleton_inj.1 h).1 Nat.toDigits_ne_nil
    · rw [hlong m hm, hlong n hn] at h
      obtain ⟨hdiv, hmod⟩ := List.append_singleton_inj.1 h
      have hdiv := ih (m / 16) (by omega) hdiv
      have hmod := digitChar_inj (Nat.mod_lt m (by decide)) (Nat.mod_lt n (by decide)) hmod
      omega

/-! ## Escapes -/

/-- The characters with an escape of one letter. -/
def shortEscapes : List (Char × Char) :=
  [('\x00', '0'), ('\t', 't'), ('\n', 'n'), ('\r', 'r'), ('"', '"'), ('\\', '\\')]

/-- The text `e` follows the backslash in an escape of the character. -/
inductive Escape : Char → Text → Prop where
  | short {c l : Char} : (c, l) ∈ shortEscapes → Escape c [l]
  | code (c : Char) : Escape c ('u' :: '{' :: (Nat.toDigits 16 c.toNat ++ ['}']))

theorem quotedChar_cases (c : Char) : (∃ e, Escape c e ∧ quotedChar c = '\\' :: e) ∨
    quotedChar c = [c] ∧ c ≠ '\\' ∧ c ≠ '"' ∧ isPrintable c = true := by
  unfold quotedChar
  split
  all_goals try exact .inl ⟨_, .short (by decide), rfl⟩
  next hquote hbackslash =>
    split
    next => exact .inl ⟨_, .code c, rfl⟩
    next hplain =>
      rw [Bool.or_eq_true, not_or] at hplain
      exact .inr ⟨rfl, hbackslash, hquote, by simpa using hplain.2⟩

theorem brace_notMem_toDigits : '}' ∉ Nat.toDigits 16 n := by
  intro h
  obtain ⟨k, hk, hbrace⟩ := mem_toDigits h
  have hall : ∀ k : Fin 16, '}' ≠ k.val.digitChar := by decide
  exact hall ⟨k, hk⟩ hbrace

theorem Escape.append_inj (he : Escape c e) (he' : Escape d e') (h : e ++ x = e' ++ y) :
    c = d ∧ x = y := by
  -- the letter after the backslash tells the short escapes apart, and from those by code point
  have hletter : ∀ p ∈ shortEscapes, p.2 ≠ 'u' ∧
      ∀ q ∈ shortEscapes, p.2 = q.2 → p.1 = q.1 := by decide
  cases he with
  | short hc =>
    cases he' with
    | short hd =>
      obtain ⟨hl, hxy⟩ := List.cons_eq_cons.1 h
      exact ⟨(hletter _ hc).2 _ hd hl, hxy⟩
    | code => exact absurd (List.cons_eq_cons.1 h).1 (hletter _ hc).1
  | code =>
    cases he' with
    | short hd => exact absurd (List.cons_eq_cons.1 h).1.symm (hletter _ hd).1
    | code =>
      simp only [List.cons_append, List.append_assoc, List.nil_append, List.cons.injEq,
        true_and] at h
      obtain ⟨hdigits, hxy⟩ :=
        append_cons_inj_of_notMem_left h brace_notMem_toDigits brace_notMem_toDigits
      exact ⟨Char.toNat_inj.1 (toDigits_inj hdigits), hxy⟩

/-! ## Quoted texts -/

theorem quotedChar_append_inj (h : quotedChar c ++ x = quotedChar d ++ y) : c = d ∧ x = y := by
  rcases quotedChar_cases c with ⟨e, he, hc⟩ | ⟨hc, hplain, -⟩ <;>
    rcases quotedChar_cases d with ⟨e', he', hd⟩ | ⟨hd, hplain', -⟩ <;>
    rw [hc, hd] at h
  · exact he.append_inj he' (List.cons_eq_cons.1 h).2
  · exact absurd (List.cons_eq_cons.1 h).1.symm hplain'
  · exact absurd (List.cons_eq_cons.1 h).1 hplain
  · exact List.cons_eq_cons.1 h

theorem quotedChar_head (c : Char) : ∃ d r, quotedChar c = d :: r ∧ d ≠ '"' := by
  rcases quotedChar_cases c with ⟨e, -, hc⟩ | ⟨hc, -, hquote, -⟩
  · exact ⟨'\\', e, hc, by decide⟩
  · exact ⟨c, [], hc, hquote⟩

/-- The quoted form of a text is read up to the quote that ends it. -/
theorem flatMap_quotedChar_append_inj
    (h : t.flatMap quotedChar ++ '"' :: x = u.flatMap quotedChar ++ '"' :: y) :
    t = u ∧ x = y := by
  have hquote : ∀ {c t x y}, '"' :: x ≠ quotedChar c ++ t ++ y := by
    intro c t x y heq
    obtain ⟨d, r, hc, hd⟩ := quotedChar_head c
    rw [hc] at heq
    exact hd (List.cons_eq_cons.1 heq).1.symm
  induction t generalizing u with
  | nil =>
    cases u with
    | nil => exact ⟨rfl, (List.cons_eq_cons.1 h).2⟩
    | cons d u => exact absurd h hquote
  | cons c t ih =>
    cases u with
    | nil => exact absurd h.symm hquote
    | cons d u =>
      rw [List.flatMap_cons, List.flatMap_cons, List.append_assoc, List.append_assoc] at h
      obtain ⟨rfl, hrest⟩ := quotedChar_append_inj h
      obtain ⟨rfl, hxy⟩ := ih hrest
      exact ⟨rfl, hxy⟩

theorem quoted_inj (h : quoted t = quoted u) : t = u :=
  (flatMap_quotedChar_append_inj (List.cons_eq_cons.1 h).2).1

/-! ## Control characters -/

/-- The code points of the general category Cc. -/
def controlRanges : CodeRanges :=
  [(0x0, 0x1F), (0x7F, 0x9F)]

/-- Whether a character is a control character. -/
def isControl (c : Char) : Bool :=
  controlRanges.covers c.toNat

theorem isControl_iff :
    isControl c = true ↔ c.toNat ≤ 0x1F ∨ 0x7F ≤ c.toNat ∧ c.toNat ≤ 0x9F := by
  rw [isControl, CodeRanges.covers_iff (by decide)]
  simp [controlRanges]

theorem isPrintable_eq_false_of_isControl (h : isControl c = true) : isPrintable c = false := by
  obtain ⟨ranges, hranges⟩ : ∃ ranges, unprintableRanges = (0x0, 0x1F) :: (0x7F, 0xA0) :: ranges :=
    ⟨_, rfl⟩
  rw [isControl_iff] at h
  rw [isPrintable, Bool.not_eq_false', hranges, CodeRanges.covers, CodeRanges.covers]
  by_cases hlow : c.toNat ≤ 0x1F
  · simp [hlow]
  · have hhigh : 0x7F ≤ c.toNat ∧ c.toNat ≤ 0xA0 := by omega
    simp [Nat.not_lt.2 hhigh.1, hhigh.2]

theorem isControl_digitChar (hn : n < 16) : isControl n.digitChar = false := by
  have hall : ∀ n : Fin 16, isControl n.val.digitChar = false := by decide
  exact hall ⟨n, hn⟩

theorem Escape.isControl_eq_false (h : Escape c e) (hd : d ∈ e) : isControl d = false := by
  cases h with
  | short hc =>
    have hall : ∀ p ∈ shortEscapes, isControl p.2 = false := by decide
    rw [List.mem_singleton.1 hd]
    exact hall _ hc
  | code =>
    simp only [List.mem_cons, List.mem_append, List.not_mem_nil, or_false] at hd
    rcases hd with rfl | rfl | hd | rfl
    · decide
    · decide
    · obtain ⟨k, hk, rfl⟩ := mem_toDigits hd
      exact isControl_digitChar hk
    · decide

theorem isControl_of_mem_quoted (h : d ∈ quoted t) : isControl d = false := by
  rw [quoted, List.mem_append, List.mem_cons, List.mem_singleton] at h
  rcases h with (rfl | h) | rfl
  · decide
  · obtain ⟨c, -, hd⟩ := List.mem_flatMap.1 h
    rcases quotedChar_cases c with ⟨e, he, hc⟩ | ⟨hc, -, -, hprintable⟩
    · rw [hc] at hd
      rcases List.mem_cons.1 hd with rfl | hd
      · decide
      · exact he.isControl_eq_false hd
    · rw [hc, List.mem_singleton] at hd
      subst hd
      apply Bool.eq_false_iff.2
      intro hcontrol
      simp [isPrintable_eq_false_of_isControl hcontrol] at hprintable
  · decide

end SourceLine.Text
