import SourceLine.Text.Basic

/-!
# Tables of code points

Properties of characters are given by the ranges of the code points that have
them. `covers_iff` says that the search through an ordered table is membership.
-/

namespace SourceLine

/-- Ranges of code points, both ends included, in increasing order. -/
abbrev CodeRanges := List (Nat × Nat)

namespace CodeRanges

/-- Whether a code point lies in one of the ranges. The search ends at the first
range beyond it. -/
def covers : CodeRanges → Nat → Bool
  | [], _ => false
  | (first, last) :: ranges, n =>
    if n < first then false else decide (n ≤ last) || covers ranges n

theorem covers_iff {ranges : CodeRanges} (h : ranges.Pairwise fun r s => r.1 ≤ s.1) {n : Nat} :
    ranges.covers n = true ↔ ∃ r ∈ ranges, r.1 ≤ n ∧ n ≤ r.2 := by
  induction ranges with
  | nil => simp [covers]
  | cons r ranges ih =>
    obtain ⟨first, last⟩ := r
    obtain ⟨hfirst, hranges⟩ := List.pairwise_cons.1 h
    by_cases hn : n < first
    · simp only [covers, hn, if_true, Bool.false_eq_true, List.mem_cons, false_iff]
      rintro ⟨s, rfl | hs, hle, -⟩
      · exact absurd hle (Nat.not_le.2 hn)
      · exact absurd (Nat.le_trans (hfirst s hs) hle) (Nat.not_le.2 hn)
    · simp only [covers, hn, if_false, Bool.or_eq_true, decide_eq_true_eq, ih hranges,
        List.mem_cons]
      constructor
      · rintro (hl | ⟨s, hs, hr⟩)
        · exact ⟨_, .inl rfl, Nat.not_lt.1 hn, hl⟩
        · exact ⟨s, .inr hs, hr⟩
      · rintro ⟨s, rfl | hs, hr⟩
        · exact .inl hr.2
        · exact .inr ⟨s, hs, hr⟩

end CodeRanges

end SourceLine
