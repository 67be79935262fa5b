import Mathlib.Data.List.DropRight
import SourceLine.Proofs.Text.Break

/-!
# Segments of a text

Some characters, the marks, cut a text into segments: a mark stands between any two that follow
each other, and none inside. A segment is taken with the texts before and after it, so it tells
where it stands. The segments of a text are computed by one pass over it; `mem_segments` says which
they are, and `pairwise_segments` in which order they come.
-/

namespace SourceLine.Text

/-- A part of a text, with what stands before and after it. -/
structure Segment where
  before : Text
  text : Text
  after : Text
deriving DecidableEq

namespace Segment

/-- The segment stands in the text, has no mark, and reaches from mark to mark or to an end. -/
structure In (isMark : Char → Bool) (s : Segment) (t : Text) : Prop where
  eq_append : t = s.before ++ s.text ++ s.after
  unmarked : ∀ c ∈ s.text, isMark c = false
  starts : ∀ c ∈ s.before.getLast?, isMark c = true
  ends : ∀ c ∈ s.after.head?, isMark c = true

variable {isMark : Char → Bool} {s s' : Segment} {t : Text}

theorem In.text_eq_takeWhile (h : s.In isMark t) :
    s.text = (s.text ++ s.after).takeWhile (!isMark ·) := by
  have hafter : s.after.takeWhile (!isMark ·) = [] := by
    cases hs : s.after with
    | nil => rfl
    | cons c after => simp [h.ends c (by rw [hs]; rfl)]
  rw [List.takeWhile_append_of_pos (by simpa using h.unmarked), hafter, List.append_nil]

/-- Two segments of a text are the same, or the later one stands behind a mark that ends the
earlier one. -/
theorem In.eq_or_behind (h : s.In isMark t) (h' : s'.In isMark t)
    (hle : s.before.length ≤ s'.before.length) :
    s = s' ∨ ∃ c z, s'.before = s.before ++ s.text ++ c :: z := by
  have heq : s.before ++ (s.text ++ s.after) = s'.before ++ (s'.text ++ s'.after) := by
    rw [← List.append_assoc, ← List.append_assoc, ← h.eq_append, ← h'.eq_append]
  obtain ⟨w, hw, hrest⟩ : ∃ w, s'.before = s.before ++ w ∧
      s.text ++ s.after = w ++ (s'.text ++ s'.after) := by
    rcases List.append_eq_append_iff.1 heq with hw | ⟨w, hw, hrest⟩
    · exact hw
    · obtain rfl : w = [] := by
        rw [hw, List.length_append] at hle
        exact List.length_eq_zero_iff.1 (by omega)
      exact ⟨[], by simpa using hw.symm, by simpa using hrest.symm⟩
  rcases List.eq_nil_or_concat' w with rfl | ⟨w, d, rfl⟩
  · left
    rw [List.append_nil] at hw
    rw [List.nil_append] at hrest
    have htext : s.text = s'.text := by
      rw [h.text_eq_takeWhile, h'.text_eq_takeWhile, hrest]
    have hafter : s.after = s'.after := by rwa [htext, List.append_cancel_left_eq] at hrest
    cases s
    cases s'
    simp_all
  · -- the mark at the end of `w` cannot stand in the earlier segment
    right
    have hd : isMark d = true := h'.starts d (by simp [hw])
    have hd' : d ∉ s.text := fun hm => by simp [h.unmarked d hm] at hd
    rw [List.append_assoc] at hrest
    obtain ⟨z, hz, -⟩ := append_cons_eq_append_of_notMem_left hrest.symm hd'
    rw [hw, hz, ← List.append_assoc, ← List.append_assoc, List.append_assoc _ z [d]]
    cases z with
    | nil => exact ⟨d, [], rfl⟩
    | cons e z => exact ⟨e, z ++ [d], rfl⟩

theorem In.stop_le (h : s.In isMark t) (h' : s'.In isMark t)
    (hlt : s.before.length < s'.before.length) : s.before ++ s.text <+: s'.before := by
  rcases h.eq_or_behind h' (Nat.le_of_lt hlt) with rfl | ⟨c, z, hz⟩
  · exact absurd hlt (Nat.lt_irrefl _)
  · exact ⟨c :: z, hz.symm⟩

end Segment

/-- The segments of a text, of which `before` is done and `text` is what has been read of the
next one. -/
def segmentsFrom (isMark : Char → Bool) (before text : Text) : Text → List Segment
  | [] => [⟨before, text, []⟩]
  | c :: rest =>
    if isMark c then
      ⟨before, text, c :: rest⟩ :: segmentsFrom isMark (before ++ text ++ [c]) [] rest
    else segmentsFrom isMark before (text ++ [c]) rest

/-- The segments into which the marks cut a text. -/
def segments (isMark : Char → Bool) (t : Text) : List Segment :=
  segmentsFrom isMark [] [] t

variable {isMark : Char → Bool} {before text rest t u : Text} {s : Segment}

theorem mem_segmentsFrom (hbefore : ∀ c ∈ before.getLast?, isMark c = true)
    (htext : ∀ c ∈ text, isMark c = false) : s ∈ segmentsFrom isMark before text rest ↔
      s.In isMark (before ++ text ++ rest) ∧ before.length ≤ s.before.length := by
  induction rest generalizing before text with
  | nil =>
    have hlast : Segment.In isMark ⟨before, text, []⟩ (before ++ text ++ []) :=
      ⟨rfl, htext, hbefore, by simp⟩
    rw [segmentsFrom, List.mem_singleton]
    constructor
    · rintro rfl
      exact ⟨hlast, Nat.le_refl _⟩
    · intro h
      rcases hlast.eq_or_behind h.1 h.2 with hs | ⟨c, z, hz⟩
      · exact hs.symm
      · have hlength := congrArg List.length h.1.eq_append
        simp only [hz, List.length_append, List.length_cons, List.length_nil] at hlength
        omega
  | cons c rest ih =>
    by_cases hc : isMark c = true
    · have hfirst : Segment.In isMark ⟨before, text, c :: rest⟩ (before ++ text ++ c :: rest) :=
        ⟨rfl, htext, hbefore, by simpa using hc⟩
      have hrest : s ∈ segmentsFrom isMark (before ++ text ++ [c]) [] rest ↔ _ :=
        ih (by simpa using hc) (by simp)
      have hline : before ++ text ++ [c] ++ [] ++ rest = before ++ text ++ c :: rest := by simp
      rw [segmentsFrom, if_pos hc, List.mem_cons, hrest, hline]
      constructor
      · intro h
        rcases h with rfl | ⟨h, hle⟩
        · exact ⟨hfirst, Nat.le_refl _⟩
        · simp only [List.length_append] at hle
          exact ⟨h, by omega⟩
      · intro h
        rcases hfirst.eq_or_behind h.1 h.2 with hs | ⟨d, z, hz⟩
        · exact .inl hs.symm
        · exact .inr ⟨h.1, by simp [hz]⟩
    · have htext' : ∀ d ∈ text ++ [c], isMark d = false :=
        List.forall_mem_append.2 ⟨htext, by simpa using hc⟩
      have hline : before ++ (text ++ [c]) ++ rest = before ++ text ++ c :: rest := by simp
      rw [segmentsFrom, if_neg hc, ih hbefore htext', hline]

/-- The segments of a text are its parts without marks that reach from mark to mark. -/
theorem mem_segments : s ∈ segments isMark t ↔ s.In isMark t := by
  rw [segments, mem_segmentsFrom (by simp) (by simp)]
  simp

theorem pairwise_segmentsFrom (hbefore : ∀ c ∈ before.getLast?, isMark c = true)
    (htext : ∀ c ∈ text, isMark c = false) :
    (segmentsFrom isMark before text rest).Pairwise
      fun s s' => s.before.length < s'.before.length := by
  induction rest generalizing before text with
  | nil => exact List.pairwise_singleton ..
  | cons c rest ih =>
    rw [segmentsFrom]
    split
    next hc =>
      have hbefore' : ∀ d ∈ (before ++ text ++ [c]).getLast?, isMark d = true := by simpa using hc
      refine .cons (fun s hs => ?_) (ih hbefore' (by simp))
      have hle := ((mem_segmentsFrom hbefore' (by simp)).1 hs).2
      simp only [List.length_append, List.length_cons, List.length_nil] at hle ⊢
      omega
    next hc => exact ih hbefore (List.forall_mem_append.2 ⟨htext, by simpa using hc⟩)

/-- The segments come in the order of their places. -/
theorem pairwise_segments (isMark : Char → Bool) (t : Text) :
    (segments isMark t).Pairwise fun s s' => s.before.length < s'.before.length :=
  pairwise_segmentsFrom (by simp) (by simp)

/-- A part of a text without marks lies in one segment. -/
theorem exists_segment (a b : Text) (hu : ∀ c ∈ u, isMark c = false) :
    ∃ s x y, s ∈ segments isMark (a ++ u ++ b) ∧ a = s.before ++ x ∧ s.text = x ++ u ++ y := by
  have ha := List.rdropWhile_append_rtakeWhile (p := (!isMark ·)) (l := a)
  have hb := List.takeWhile_append_dropWhile (p := (!isMark ·)) (l := b)
  let s : Segment := ⟨a.rdropWhile (!isMark ·),
    a.rtakeWhile (!isMark ·) ++ u ++ b.takeWhile (!isMark ·), b.dropWhile (!isMark ·)⟩
  refine ⟨s, _, _, mem_segments.2 ⟨?_, ?_, ?_, ?_⟩, ha.symm, rfl⟩
  · calc a ++ u ++ b
        = a.rdropWhile (!isMark ·) ++ a.rtakeWhile (!isMark ·) ++ u ++
            (b.takeWhile (!isMark ·) ++ b.dropWhile (!isMark ·)) := by rw [ha, hb]
      _ = s.before ++ s.text ++ s.after := by simp only [s, List.append_assoc]
  · intro c hc
    rcases List.mem_append.1 hc with hc | hc
    · rcases List.mem_append.1 hc with hc | hc
      · simpa using List.mem_rtakeWhile_imp hc
      · exact hu c hc
    · simpa using List.mem_takeWhile_imp hc
  · intro c hc
    have hne : a.rdropWhile (!isMark ·) ≠ [] := by
      rintro hnil
      simp [s, hnil] at hc
    have hlast := List.rdropWhile_last_not (!isMark ·) a hne
    rw [List.getLast?_eq_some_getLast hne] at hc
    simp_all
  · intro c hc
    have hhead := List.head?_dropWhile_not (!isMark ·) b
    rw [Option.mem_def.1 hc] at hhead
    simpa using hhead

end SourceLine.Text
