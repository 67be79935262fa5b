import Mathlib.Data.String.Basic
import SourceLine.Proofs.Pattern.Longest

/-!
# Successive matches

A pattern is *settled* if its matches depend on its language alone: a text of it is not empty,
its neighbours do not matter, and no text that starts where a match starts ends later. For
such a pattern the successive matches are given without any order of choice
(`Settled.leftmostLongest_spans`, `LeftmostLongest.unique`): each starts at the first place
after the last match where a text of the pattern starts, and is the longest text there.
-/

namespace SourceLine

open String (utf8Len)

namespace Text

/-- Of two beginnings of a line, the one with fewer bytes is a beginning of the other. -/
theorem prefix_of_utf8Len_le {a b a' b' : Text} (h : a ++ b = a' ++ b')
    (hle : utf8Len a ≤ utf8Len a') : ∃ w, a' = a ++ w ∧ b = w ++ b' := by
  rcases List.append_eq_append_iff.1 h with ⟨w, rfl, rfl⟩ | ⟨w, rfl, rfl⟩
  · exact ⟨w, rfl, rfl⟩
  · rw [String.utf8Len_append] at hle
    obtain rfl : w = [] := String.utf8Len_eq_zero.1 (by omega)
    exact ⟨[], by simp, by simp⟩

theorem append_inj_of_utf8Len {a b a' b' : Text} (h : a ++ b = a' ++ b')
    (heq : utf8Len a = utf8Len a') : a = a' ∧ b = b' := by
  obtain ⟨w, rfl, rfl⟩ := prefix_of_utf8Len_le h (Nat.le_of_eq heq)
  rw [String.utf8Len_append] at heq
  obtain rfl : w = [] := String.utf8Len_eq_zero.1 (by omega)
  exact ⟨by simp, rfl⟩

end Text

namespace Pattern

open Matcher Text

/-- The span of the line is taken by a text of the pattern. -/
def StandsAt (p : Pattern) (line : Text) (σ : Span) : Prop :=
  ∃ a t b, line = a ++ t ++ b ∧ p.Language t ∧ σ = ⟨utf8Len a, utf8Len (a ++ t)⟩

/-- The spans from an offset on, each the longest of those that start first after the last. -/
inductive LeftmostLongest (p : Pattern) (line : Text) : Nat → List Span → Prop where
  | stop {start : Nat} : (∀ τ, p.StandsAt line τ → τ.start < start) →
      LeftmostLongest p line start []
  | next {start : Nat} {σ : Span} {l : List Span} : p.StandsAt line σ → start ≤ σ.start →
      (∀ τ, p.StandsAt line τ → start ≤ τ.start → σ.start ≤ τ.start) →
      (∀ τ, p.StandsAt line τ → τ.start = σ.start → τ.stop ≤ σ.stop) →
      LeftmostLongest p line σ.stop l → LeftmostLongest p line start (σ :: l)

variable {p : Pattern} {line : Text} {start start' : Nat} {σ : Span} {l l' : List Span}

theorem StandsAt.start_le_stop (h : p.StandsAt line σ) : σ.start ≤ σ.stop := by
  obtain ⟨a, t, b, -, -, rfl⟩ := h
  simp

namespace LeftmostLongest

theorem unique (h : LeftmostLongest p line start l) (h' : LeftmostLongest p line start l') :
    l = l' := by
  induction h generalizing l' with
  | stop hstop =>
    cases h' with
    | stop => rfl
    | next hs hle => exact absurd (hstop _ hs) (by omega)
  | @next _ σ l hs hle hfirst hlong _ ih =>
    cases h' with
    | stop hstop => exact absurd (hstop _ hs) (by omega)
    | @next _ τ l' ht hle' hfirst' hlong' hrest' =>
      have hstart : τ.start = σ.start :=
        Nat.le_antisymm (hfirst' _ hs hle) (hfirst _ ht hle')
      have hstop : τ.stop = σ.stop :=
        Nat.le_antisymm (hlong _ ht hstart) (hlong' _ hs hstart.symm)
      obtain rfl : τ = σ := by cases τ; cases σ; simp_all
      rw [ih hrest']

/-- The offset may be moved back over places where no text starts. -/
theorem of_later (h : LeftmostLongest p line start' l) (hle : start ≤ start')
    (hno : ∀ τ, p.StandsAt line τ → start ≤ τ.start → start' ≤ τ.start) :
    LeftmostLongest p line start l := by
  cases h with
  | stop hstop =>
    refine .stop fun τ ht => ?_
    have hlt := hstop τ ht
    apply Nat.lt_of_not_le
    intro hge
    have := hno τ ht hge
    omega
  | next hs hle' hfirst hlong hrest =>
    exact .next hs (Nat.le_trans hle hle') (fun τ ht hge => hfirst τ ht (hno τ ht hge)) hlong hrest

theorem standsAt (h : LeftmostLongest p line start l) (hσ : σ ∈ l) : p.StandsAt line σ := by
  induction h with
  | stop => cases hσ
  | next hs _ _ _ _ ih =>
    rcases List.mem_cons.1 hσ with rfl | hσ
    · exact hs
    · exact ih hσ

theorem start_le (h : LeftmostLongest p line start l) (hσ : σ ∈ l) : start ≤ σ.start := by
  induction h with
  | stop => cases hσ
  | @next start τ l hs hle _ _ _ ih =>
    rcases List.mem_cons.1 hσ with rfl | hσ
    · exact hle
    · have := ih hσ
      have := hs.start_le_stop
      omega

theorem pairwise (h : LeftmostLongest p line start l) :
    l.Pairwise fun σ τ => σ.stop ≤ τ.start := by
  induction h with
  | stop => exact .nil
  | next _ _ _ _ hrest ih => exact .cons (fun τ hτ => hrest.start_le hτ) ih

end LeftmostLongest

/-- The matches of the pattern depend on its language alone. -/
structure Settled (p : Pattern) : Prop where
  ne_nil {t} : p.Language t → t ≠ []
  alone {before t after} : p.Denotes before t after ↔ p.Language t
  exhausts : Exhausts p.Denotes done p.matchAt

/-- A text of the pattern starts here. -/
def Starts (p : Pattern) (t : Text) : Prop :=
  ∃ u v, t = u ++ v ∧ p.Language u

/-- A text of the pattern starts in the line right after `a`. -/
def StartsAfter (p : Pattern) (line a : Text) : Prop :=
  ∃ r, line = a ++ r ∧ p.Starts r

namespace Settled

variable {before : Option Char} {t : Text} {n : Nat}

theorem matchAt_isSome (h : p.Settled) (before : Option Char) :
    (p.matchAt before t).isSome ↔ p.Starts t := by
  simp only [isSome_matchAt_iff, h.alone, Starts]

theorem language_take (h : p.Settled) (hn : p.matchAt before t = some n) :
    p.Language (t.take n) := h.alone.1 (denotes_of_matchAt hn).2

theorem length_le (h : p.Settled) (hn : p.matchAt before t = some n) {u v : Text}
    (ht : t = u ++ v) (hu : p.Language u) : u.length ≤ n := by
  subst ht
  obtain ⟨m, hm, hle⟩ := h.exhausts (h.alone.2 hu) (rfl : done _ v = some 0)
  cases hm.symm.trans hn
  exact hle

theorem standsAt_lt (h : p.Settled) (hs : p.StandsAt line σ) : σ.start < σ.stop := by
  obtain ⟨a, t, b, -, ht, rfl⟩ := hs
  have hpos : utf8Len t ≠ 0 := fun h0 => h.ne_nil ht (String.utf8Len_eq_zero.1 h0)
  simp only [String.utf8Len_append]
  omega

theorem standsAt_start_lt (h : p.Settled) (hs : p.StandsAt line σ) :
    σ.start < utf8Len line := by
  have hlt := h.standsAt_lt hs
  obtain ⟨a, t, b, rfl, -, rfl⟩ := hs
  simp only [String.utf8Len_append] at hlt ⊢
  omega

/-- A match found at a place is the first and longest from there. -/
theorem standsAt_take (h : p.Settled) {a : Text} (hn : p.matchAt before t = some n) :
    p.StandsAt (a ++ t) ⟨utf8Len a, utf8Len (a ++ t.take n)⟩ ∧
      ∀ τ, p.StandsAt (a ++ t) τ → τ.start = utf8Len a →
        τ.stop ≤ utf8Len (a ++ t.take n) := by
  refine ⟨⟨a, t.take n, t.drop n, by simp, h.language_take hn, rfl⟩, ?_⟩
  intro τ hτ hstart
  obtain ⟨x, u, v, hline, hu, rfl⟩ := hτ
  rw [List.append_assoc] at hline
  obtain ⟨rfl, ht⟩ := append_inj_of_utf8Len hline hstart.symm
  -- both texts start at `a`, so the shorter one begins the longer one
  have hle := h.length_le hn ht hu
  have htake : t.take n = u ++ v.take (n - u.length) := by
    rw [ht, List.take_append, List.take_of_length_le hle]
  simp only [htake, String.utf8Len_append]
  omega

/-- Where no text starts, the search goes on after the next character. -/
theorem start_le_of_not_starts {a : Text} {c : Char} (hno : ¬ p.Starts (c :: t))
    (hs : p.StandsAt (a ++ c :: t) σ) (hle : utf8Len a ≤ σ.start) :
    utf8Len (a ++ [c]) ≤ σ.start := by
  obtain ⟨x, u, v, hline, hu, rfl⟩ := hs
  rw [List.append_assoc] at hline
  obtain ⟨w, rfl, ht⟩ := prefix_of_utf8Len_le hline hle
  cases w with
  | nil => exact absurd ⟨u, v, ht, hu⟩ hno
  | cons d w =>
    obtain ⟨rfl, -⟩ := List.cons_eq_cons.1 ht
    simp only [String.utf8Len_append, String.utf8Len_cons, String.utf8Len_nil]
    omega

/-- The pieces of the rest of a line, `inside` characters of which are taken already. -/
theorem leftmostLongest_pieces (h : p.Settled) (a : Text) (inside : Nat) :
    LeftmostLongest p (a ++ t) (utf8Len (a ++ t.take inside))
      (Piece.spans (utf8Len (a ++ t.take inside))
        (Reach.pieces inside (p.matchAt.table a.getLast? t) t)) := by
  induction t generalizing a inside with
  | nil =>
    refine .stop fun τ hτ => ?_
    simpa using h.standsAt_start_lt hτ
  | cons c t ih =>
    have hlast : (a ++ [c]).getLast? = some c := by simp
    have hsplit : a ++ c :: t = a ++ [c] ++ t := by simp
    cases inside with
    | succ inside =>
      have := ih (a ++ [c]) inside
      rw [hlast, ← hsplit, List.append_assoc] at this
      exact this
    | zero =>
      cases hn : p.matchAt a.getLast? (c :: t) with
      | none =>
        have hno : ¬ p.Starts (c :: t) := by
          rw [← h.matchAt_isSome a.getLast?, hn]
          exact Bool.false_ne_true
        have := ih (a ++ [c]) 0
        rw [hlast, ← hsplit] at this
        simp only [List.take_zero, List.append_nil, table, hn, Reach.pieces, Piece.spans] at this ⊢
        simp only [String.utf8Len_append, String.utf8Len_cons, String.utf8Len_nil,
          Nat.zero_add] at this
        refine this.of_later (Nat.le_add_right _ _) fun τ hτ hle => ?_
        simpa using start_le_of_not_starts hno hτ hle
      | some n =>
        obtain ⟨hstands, hlong⟩ := h.standsAt_take (a := a) hn
        cases n with
        | zero => exact absurd (h.language_take hn) fun hl => h.ne_nil hl rfl
        | succ n =>
          have := ih (a ++ [c]) n
          rw [hlast, ← hsplit, List.append_assoc, List.singleton_append] at this
          simp only [List.take_zero, List.append_nil, table, hn, Reach.pieces, Piece.spans,
            String.utf8ByteSize_ofList]
          simp only [List.take_succ_cons, String.utf8Len_append] at hstands hlong this ⊢
          exact .next hstands (Nat.le_refl _) (fun τ _ hle => hle) hlong this

theorem leftmostLongest_spans (h : p.Settled) (line : Text) :
    LeftmostLongest p line 0 (p.spans line) := by
  have := h.leftmostLongest_pieces (t := line) [] 0
  rw [Pattern.spans, Pattern.pieces, reach_eq]
  exact this

/-- Spans of the pattern one after the other that hold all its other spans from an offset on. -/
theorem leftmostLongest_of_cover (h : p.Settled) (hpair : l.Pairwise fun σ τ => σ.stop ≤ τ.start)
    (hstands : ∀ σ ∈ l, p.StandsAt line σ ∧ start ≤ σ.start)
    (hcover : ∀ τ, p.StandsAt line τ → start ≤ τ.start →
      ∃ σ ∈ l, σ.start ≤ τ.start ∧ τ.stop ≤ σ.stop) : LeftmostLongest p line start l := by
  induction l generalizing start with
  | nil =>
    refine .stop fun τ hτ => Nat.lt_of_not_le fun hle => ?_
    obtain ⟨σ, hσ, -⟩ := hcover τ hτ hle
    cases hσ
  | cons σ l ih =>
    obtain ⟨hafter, hpair⟩ := List.pairwise_cons.1 hpair
    obtain ⟨hσ, hle⟩ := hstands σ List.mem_cons_self
    have hlt := h.standsAt_lt hσ
    refine .next hσ hle (fun τ hτ hge => ?_) (fun τ hτ hstart => ?_) (ih hpair ?_ ?_)
    · obtain ⟨σ', hσ', hstart, -⟩ := hcover τ hτ hge
      rcases List.mem_cons.1 hσ' with rfl | hσ'
      · exact hstart
      · have := hafter σ' hσ'
        omega
    · obtain ⟨σ', hσ', hstart', hstop⟩ := hcover τ hτ (by omega)
      rcases List.mem_cons.1 hσ' with rfl | hσ'
      · exact hstop
      · have := hafter σ' hσ'
        omega
    · exact fun τ hτ => ⟨(hstands τ (List.mem_cons_of_mem σ hτ)).1, hafter τ hτ⟩
    · intro τ hτ hge
      obtain ⟨σ', hσ', hstart, hstop⟩ := hcover τ hτ (by omega)
      rcases List.mem_cons.1 hσ' with rfl | hσ'
      · have := h.standsAt_lt hτ
        omega
      · exact ⟨σ', hσ', hstart, hstop⟩

/-- The successive matches are given by any spans of the pattern, one after the other, that hold
all its other spans. -/
theorem spans_eq_of_cover (h : p.Settled) (hpair : l.Pairwise fun σ τ => σ.stop ≤ τ.start)
    (hstands : ∀ σ ∈ l, p.StandsAt line σ)
    (hcover : ∀ τ, p.StandsAt line τ → ∃ σ ∈ l, σ.start ≤ τ.start ∧ τ.stop ≤ σ.stop) :
    p.spans line = l := by
  have hl : LeftmostLongest p line 0 l := h.leftmostLongest_of_cover hpair
    (fun σ hσ => ⟨hstands σ hσ, Nat.zero_le _⟩) (fun τ hτ _ => hcover τ hτ)
  exact (h.leftmostLongest_spans line).unique hl

/-! ## The text before the first match -/

/-- Where no text of the pattern starts, the characters stand for themselves. -/
theorem pieces_append (h : p.Settled) (before : Option Char) {a r : Text}
    (hno : ∀ u v, a = u ++ v → v ≠ [] → ¬ p.Starts (v ++ r)) :
    Reach.pieces 0 (p.matchAt.table before (a ++ r)) (a ++ r) =
      a.map .plain ++ Reach.pieces 0 (p.matchAt.table (a.getLast?.or before) r) r := by
  induction a generalizing before with
  | nil => rfl
  | cons c a ih =>
    have hnone : p.matchAt before (c :: (a ++ r)) = none := by
      have hc := hno [] (c :: a) rfl (List.cons_ne_nil c a)
      rw [List.cons_append, ← h.matchAt_isSome before] at hc
      simpa using hc
    have htail := ih (some c) fun u v ha => hno (c :: u) v (by rw [ha]; rfl)
    rw [getLast?_cons_or]
    simp only [List.cons_append, table, hnone, Reach.pieces, List.map_cons, htail]

theorem pieces_starts (h : p.Settled) (before : Option Char) (hs : p.Starts t) :
    ∃ u l, Reach.pieces 0 (p.matchAt.table before t) t = .found u :: l := by
  obtain ⟨n, hn⟩ := Option.isSome_iff_exists.1 ((h.matchAt_isSome before).2 hs)
  have hne := h.ne_nil (h.language_take hn)
  cases t with
  | nil => simp at hne
  | cons c t =>
    cases n with
    | zero => simp at hne
    | succ n => simp only [table, hn, Reach.pieces]; exact ⟨_, _, rfl⟩

theorem before?_append (h : p.Settled) {a r : Text} (hs : p.Starts r)
    (hno : ∀ u v, a = u ++ v → v ≠ [] → ¬ p.Starts (v ++ r)) : p.before? (a ++ r) = some a := by
  have hplain := h.pieces_append none hno
  obtain ⟨u, l, hfound⟩ := h.pieces_starts (a.getLast?.or none) hs
  rw [hfound] at hplain
  have htake : ((a.map Piece.plain ++ .found u :: l).takeWhile (!·.isFound)) = a.map .plain := by
    rw [List.takeWhile_append_of_pos (by simp [Piece.isFound])]
    simp [Piece.isFound]
  have htext : (a.map Piece.plain).flatMap Piece.text = a := by
    simp [List.flatMap_map, Piece.text]
  simp only [Pattern.before?, Pattern.pieces, reach_eq, hplain, htake, htext]
  simp [Piece.isFound]

theorem occursIn_iff_exists (h : p.Settled) :
    p.occursIn line = true ↔ ∃ t, t <:+: line ∧ p.Language t := by
  simp only [occursIn_iff, h.alone]
  refine ⟨fun hline => ?_, fun hline => ?_⟩
  · obtain ⟨a, t, b, rfl, ht⟩ := hline
    exact ⟨t, List.infix_append .., ht⟩
  · obtain ⟨t, ⟨a, b, rfl⟩, ht⟩ := hline
    exact ⟨a, t, b, rfl, ht⟩

theorem occursIn_iff_starts (h : p.Settled) :
    p.occursIn line = true ↔ ∃ a r, line = a ++ r ∧ p.Starts r := by
  rw [h.occursIn_iff_exists]
  refine ⟨fun hline => ?_, fun hline => ?_⟩
  · obtain ⟨t, ⟨a, b, rfl⟩, ht⟩ := hline
    exact ⟨a, t ++ b, by simp, t, b, rfl, ht⟩
  · obtain ⟨a, _, rfl, t, b, rfl, ht⟩ := hline
    exact ⟨t, ⟨a, b, by simp⟩, ht⟩

theorem before?_eq_none (h : p.Settled) (hno : p.occursIn line = false) :
    p.before? line = none := by
  have hplain := h.pieces_append none (a := line) (r := []) fun u v hline _ hs => by
    rw [Bool.eq_false_iff] at hno
    exact hno (h.occursIn_iff_starts.2 ⟨u, v, hline, by simpa using hs⟩)
  simp only [List.append_nil] at hplain
  simp only [Pattern.before?, Pattern.pieces, reach_eq, hplain]
  simp [Reach.pieces, Piece.isFound]

/-- The first place of a line where a text of the pattern starts. -/
theorem exists_first {a r : Text} (hs : p.Starts r) :
    ∃ a' r', a ++ r = a' ++ r' ∧ p.Starts r' ∧
      ∀ u v, a' = u ++ v → v ≠ [] → ¬ p.Starts (v ++ r') := by
  induction a with
  | nil => exact ⟨[], r, rfl, hs, fun u v huv hv => absurd (List.append_eq_nil_iff.1 huv.symm).2 hv⟩
  | cons c a ih =>
    by_cases hc : p.Starts (c :: (a ++ r))
    · exact ⟨[], _, rfl, hc, fun u v huv hv => absurd (List.append_eq_nil_iff.1 huv.symm).2 hv⟩
    · obtain ⟨a', r', heq, hr', hno⟩ := ih
      refine ⟨c :: a', r', by simp [heq], hr', ?_⟩
      intro u v huv hv
      cases u with
      | nil =>
        obtain rfl : c :: a' = v := huv
        rwa [List.cons_append, ← heq]
      | cons d u => exact hno u v (List.cons_eq_cons.1 huv).2 hv

theorem exists_before? (h : p.Settled) (hs : ∃ a, p.StartsAfter line a) :
    ∃ a, p.before? line = some a ∧ p.StartsAfter line a ∧
      ∀ a', p.StartsAfter line a' → a.length ≤ a'.length := by
  obtain ⟨a, r, rfl, hr⟩ := hs
  obtain ⟨a, r, heq, hr, hno⟩ := exists_first (a := a) hr
  rw [heq]
  refine ⟨a, h.before?_append hr hno, ⟨r, rfl, hr⟩, ?_⟩
  intro a' ha'
  obtain ⟨r', heq', hr'⟩ := ha'
  rcases List.append_eq_append_iff.1 heq' with ⟨w, rfl, -⟩ | ⟨w, rfl, rfl⟩
  · simp
  · cases w with
    | nil => simp
    | cons d w => exact absurd hr' (hno a' (d :: w) rfl (List.cons_ne_nil d w))

theorem isSome_before?_iff (h : p.Settled) :
    (p.before? line).isSome ↔ ∃ a, p.StartsAfter line a := by
  constructor
  · intro hsome
    apply h.occursIn_iff_starts.1
    apply Classical.byContradiction
    intro hno
    rw [h.before?_eq_none (Bool.eq_false_iff.2 hno)] at hsome
    cases hsome
  · intro hs
    obtain ⟨a, ha, -⟩ := h.exists_before? hs
    exact Option.isSome_iff_exists.2 ⟨a, ha⟩

/-- The text before the first match is the shortest one after which a text of the pattern
starts. -/
theorem before?_eq_some_iff (h : p.Settled) {a : Text} : p.before? line = some a ↔
    p.StartsAfter line a ∧ ∀ a', p.StartsAfter line a' → a.length ≤ a'.length := by
  constructor
  · intro ha
    have hsome : (p.before? line).isSome := Option.isSome_iff_exists.2 ⟨a, ha⟩
    obtain ⟨a', ha', hfirst⟩ := h.exists_before? (h.isSome_before?_iff.1 hsome)
    cases ha.symm.trans ha'
    exact hfirst
  · intro ha
    obtain ⟨hs, hfirst⟩ := ha
    obtain ⟨a', ha', hs', hfirst'⟩ := h.exists_before? ⟨a, hs⟩
    have hlength : a'.length = a.length := Nat.le_antisymm (hfirst' a hs) (hfirst a' hs')
    obtain ⟨r, hline, -⟩ := hs
    obtain ⟨r', hline', -⟩ := hs'
    obtain ⟨rfl, -⟩ := List.append_inj (hline'.symm.trans hline) hlength
    exact ha'

theorem exists_standsAt_of_startsAfter {a : Text} (ha : p.StartsAfter line a) :
    ∃ τ, p.StandsAt line τ ∧ τ.start = utf8Len a := by
  obtain ⟨_, rfl, t, b, rfl, ht⟩ := ha
  exact ⟨_, ⟨a, t, b, by simp, ht, rfl⟩, rfl⟩

/-- The text before the first match ends where the first span starts, which is between two
characters of the line. -/
theorem before?_eq_some_iff_spans (h : p.Settled) {a : Text} : p.before? line = some a ↔
    a <+: line ∧ ∃ σ, (p.spans line).head? = some σ ∧ σ.start = utf8Len a := by
  have hspans := h.leftmostLongest_spans line
  rw [h.before?_eq_some_iff]
  generalize p.spans line = l at hspans
  cases hspans with
  | stop hstop =>
    refine iff_of_false (fun ha => ?_) (fun ha => ?_)
    · obtain ⟨τ, hτ, -⟩ := exists_standsAt_of_startsAfter ha.1
      exact absurd (hstop τ hτ) (Nat.not_lt_zero _)
    · obtain ⟨-, σ, hσ, -⟩ := ha
      cases hσ
  | @next _ σ l hσ _ hfirst _ _ =>
    obtain ⟨x, t, b, rfl, ht, rfl⟩ := hσ
    have hx : p.StartsAfter (x ++ t ++ b) x := ⟨t ++ b, by simp, t, b, rfl, ht⟩
    constructor
    · intro ha
      obtain ⟨hstarts, hshort⟩ := ha
      obtain ⟨τ, hτ, hstart⟩ := exists_standsAt_of_startsAfter hstarts
      have hge := hfirst τ hτ (Nat.zero_le _)
      obtain ⟨r, hline, -⟩ := hstarts
      have hpre : a <+: x := List.prefix_of_prefix_length_le ⟨r, hline.symm⟩
        ⟨t ++ b, by simp⟩ (hshort x hx)
      refine ⟨⟨r, hline.symm⟩, _, rfl, Nat.le_antisymm (hstart ▸ hge) ?_⟩
      exact String.utf8Len_le_of_prefix hpre
    · intro ha
      obtain ⟨⟨r, hline⟩, σ, hσ, hstart⟩ := ha
      cases hσ
      rw [List.append_assoc] at hline
      obtain ⟨rfl, -⟩ := append_inj_of_utf8Len hline hstart.symm
      refine ⟨hx, fun a' ha' => ?_⟩
      obtain ⟨τ, hτ, hstart'⟩ := exists_standsAt_of_startsAfter ha'
      have hge := hfirst τ hτ (Nat.zero_le _)
      obtain ⟨r', hline', -⟩ := ha'
      rw [List.append_assoc] at hline'
      obtain ⟨w, rfl, -⟩ := prefix_of_utf8Len_le hline' (hstart' ▸ hge)
      rw [List.length_append]
      exact Nat.le_add_right _ _

/-! ## The text without the matches -/

theorem matchAt_eq (h : p.Settled) (before before' : Option Char) (t : Text) :
    p.matchAt before t = p.matchAt before' t := by
  have hle : ∀ {b b' m n}, p.matchAt b t = some m → p.matchAt b' t = some n → m ≤ n := by
    intro b b' m n hm hn
    have hle := h.length_le hn (List.take_append_drop m t).symm (h.language_take hm)
    rwa [List.length_take, Nat.min_eq_left (denotes_of_matchAt hm).1] at hle
  have hsome := (h.matchAt_isSome (t := t) before).trans (h.matchAt_isSome before').symm
  cases hm : p.matchAt before t with
  | none =>
    cases hn : p.matchAt before' t with
    | none => rfl
    | some n => simp [hm, hn] at hsome
  | some m =>
    cases hn : p.matchAt before' t with
    | none => simp [hm, hn] at hsome
    | some n => rw [Nat.le_antisymm (hle hm hn) (hle hn hm)]

/-- What is taken already does not matter for the pieces after it. -/
theorem pieces_drop (h : p.Settled) (before : Option Char) (n : Nat) :
    Reach.pieces n (p.matchAt.table before t) t =
      Reach.pieces 0 (p.matchAt.table none (t.drop n)) (t.drop n) := by
  induction t generalizing before n with
  | nil => simp [table, Reach.pieces]
  | cons c t ih =>
    cases n with
    | zero => rw [List.drop_zero, table, table, h.matchAt_eq before none]
    | succ n => exact ih (some c) n

theorem erase_eq (p : Pattern) (line : Text) : p.erase line =
    (Reach.pieces 0 (p.matchAt.table none line) line).filterMap Piece.plain? := by
  rw [Pattern.erase, Pattern.pieces, reach_eq]

/-- The longest text at the start of a line is left out. -/
theorem erase_append (h : p.Settled) {u r : Text} (hu : p.Language u)
    (hlong : ∀ u' v', u ++ r = u' ++ v' → p.Language u' → u'.length ≤ u.length) :
    p.erase (u ++ r) = p.erase r := by
  obtain ⟨n, hn⟩ := Option.isSome_iff_exists.1 ((h.matchAt_isSome none).2 ⟨u, r, rfl, hu⟩)
  have hle : u.length ≤ n := h.length_le hn rfl hu
  have hge : n ≤ u.length := by
    have := hlong _ _ (List.take_append_drop n _).symm (h.language_take hn)
    rwa [List.length_take, Nat.min_eq_left (denotes_of_matchAt hn).1] at this
  obtain rfl : n = u.length := Nat.le_antisymm hge hle
  obtain ⟨c, u, rfl⟩ := List.exists_cons_of_ne_nil (h.ne_nil hu)
  rw [erase_eq, erase_eq]
  rw [List.cons_append] at hn ⊢
  simp only [table, hn, List.length_cons, Reach.pieces]
  rw [h.pieces_drop (some c) u.length, List.drop_left]
  rfl

/-- A beginning in which no text starts is kept. -/
theorem erase_append_of_not_starts (h : p.Settled) {a r : Text}
    (hno : ∀ u v, a = u ++ v → v ≠ [] → ¬ p.Starts (v ++ r)) :
    p.erase (a ++ r) = a ++ p.erase r := by
  have hrest := h.pieces_drop (t := r) (a.getLast?.or none) 0
  rw [List.drop_zero] at hrest
  rw [erase_eq, h.pieces_append none hno, hrest, List.filterMap_append, List.filterMap_map,
    ← erase_eq]
  exact congrArg (· ++ p.erase r) List.filterMap_some

end Settled

theorem filterMap_pieces_sublist (inside : Nat) (reach : Reach) (line : Text) :
    ((reach.pieces inside line).filterMap Piece.plain?).Sublist line := by
  induction line generalizing inside reach with
  | nil => cases reach <;> exact List.Sublist.refl []
  | cons c line ih =>
    cases reach with
    | nil => exact List.nil_sublist _
    | cons here reach =>
      cases inside with
      | succ inside => exact (ih inside reach).cons c
      | zero =>
        cases here with
        | none => exact (ih 0 reach).cons_cons c
        | some n =>
          cases n with
          | zero => exact (ih 0 reach).cons_cons c
          | succ n => exact (ih n reach).cons c

theorem erase_sublist (p : Pattern) (line : Text) : (p.erase line).Sublist line :=
  filterMap_pieces_sublist 0 (p.reach line) line

end Pattern

end SourceLine
