import SourceLine.Proofs.Line.FunctionNames
import SourceLine.Proofs.Text.Segments

/-!
# Parameters of a line

The matches of the parameters, read off the rows into which line feeds cut a line. A row has
parameters if its first opening parenthesis comes before its last closing one, and then exactly
these: a match starts no later than any other in its row, ends no earlier, and cannot leave the
row (`exists_row_of_standsAt`). So the text before the first parameters is all that stands before
the first parenthesis of the first such row, the rows above it included.
-/

namespace SourceLine.Line

open Pattern Shape Text
open String (utf8Len)

/-- The parts of a line between its line feeds. -/
def rows (line : Text) : List Segment :=
  segments (· == '\n') line

/-- The first opening parenthesis of the row comes before its last closing one. -/
def Encloses (row : Segment) : Prop :=
  ∃ a x z, row.text = a ++ '(' :: x ++ ')' :: z ∧ '(' ∉ a ∧ ')' ∉ z

/-- The text of the line before the first opening parenthesis of the row. -/
def beforeOpening (row : Segment) : Text :=
  row.before ++ row.text.takeWhile (· != '(')

/-- The text of the line up to the last closing parenthesis of the row. -/
def upToClosing (row : Segment) : Text :=
  row.before ++ row.text.rdropWhile (· != ')')

/-- From the first opening parenthesis of the row to its last closing one. -/
def enclosed (row : Segment) : Span where
  start := utf8Len (beforeOpening row)
  stop := utf8Len (upToClosing row)

variable {line left : Text} {row row' : Segment} {τ : Span}

theorem encloses_of_append {a x z : Text} (h : row.text = a ++ '(' :: x ++ ')' :: z) :
    Encloses row := by
  have hopen : '(' ∈ row.text := by simp [h]
  obtain ⟨a', r, hrow, ha'⟩ := List.eq_append_cons_of_mem hopen
  rw [hrow, List.append_assoc, List.cons_append] at h
  obtain ⟨y, -, hy⟩ := append_cons_eq_append_of_notMem_left h.symm ha'
  have hclose : ')' ∈ '(' :: r := by simp [hy]
  obtain ⟨x', z', hr, hz'⟩ :=
    exists_append_cons_of_mem_last (List.mem_of_ne_of_mem (by decide) hclose)
  exact ⟨a', x', z', by simp [hrow, hr], ha', hz'⟩

/-- A row encloses something if a closing parenthesis comes after its first opening one. -/
theorem mem_dropWhile_iff_encloses : ')' ∈ row.text.dropWhile (· != '(') ↔ Encloses row := by
  constructor
  · intro h
    have hrow := List.takeWhile_append_dropWhile (p := (· != '(')) (l := row.text)
    have hhead := List.head?_dropWhile_not (· != '(') row.text
    generalize row.text.takeWhile (· != '(') = a at hrow
    cases hrest : row.text.dropWhile (· != '(') with
    | nil => simp [hrest] at h
    | cons d r =>
      rw [hrest] at h hhead hrow
      obtain rfl : d = '(' := by simpa using hhead
      obtain ⟨x, z, rfl⟩ := List.append_of_mem (List.mem_of_ne_of_mem (by decide) h)
      exact encloses_of_append (a := a) (x := x) (z := z) (by simp [← hrow])
  · intro h
    obtain ⟨a, x, z, hrow, ha, -⟩ := h
    rw [hrow, List.append_assoc, List.dropWhile_append_of_pos (bne_of_notMem ha)]
    simp

instance : DecidablePred Encloses := fun _ => decidable_of_iff _ mem_dropWhile_iff_encloses

theorem beforeOpening_eq {a r : Text} (h : row.text = a ++ '(' :: r) (ha : '(' ∉ a) :
    beforeOpening row = row.before ++ a := by
  rw [beforeOpening, h, List.takeWhile_append_of_pos (bne_of_notMem ha)]
  simp

theorem upToClosing_eq {r z : Text} (h : row.text = r ++ ')' :: z) (hz : ')' ∉ z) :
    upToClosing row = row.before ++ r ++ [')'] := by
  have hrow : row.text = r ++ [')'] ++ z := by simp [h]
  rw [upToClosing, hrow, rdropWhile_append_of_forall (bne_of_notMem hz),
    List.rdropWhile_concat_neg _ _ _ (by simp), List.append_assoc]

theorem beforeOpening_prefix (h : row.In (· == '\n') line) : beforeOpening row <+: line := by
  have hrow := List.takeWhile_append_dropWhile (p := (· != '(')) (l := row.text)
  refine ⟨row.text.dropWhile (· != '(') ++ row.after, ?_⟩
  rw [beforeOpening, h.eq_append, List.append_assoc, ← List.append_assoc (List.takeWhile _ _), hrow,
    List.append_assoc]

/-! ## Rows and matches -/

theorem standsAt_enclosed (h : row.In (· == '\n') line) (hrow : Encloses row) :
    parameters.pattern.StandsAt line (enclosed row) := by
  obtain ⟨a, x, z, htext, ha, hz⟩ := hrow
  have hfeed : '\n' ∉ x := by
    intro hx
    have := h.unmarked '\n' (by simp [htext, hx])
    simp at this
  have htext' : row.text = a ++ '(' :: (x ++ ')' :: z) := by simp [htext]
  have hopen := beforeOpening_eq htext' ha
  have hclose := upToClosing_eq htext hz
  refine ⟨row.before ++ a, '(' :: x ++ [')'], z ++ row.after, ?_, ?_, ?_⟩
  · rw [h.eq_append, htext]
    simp
  · exact denotes_parenthesized.2 ⟨x, hfeed, rfl⟩
  · rw [enclosed, hopen, hclose]
    simp

/-- Parameters anywhere in a line lie between the outer parentheses of one row. -/
theorem exists_row_of_standsAt (hτ : parameters.pattern.StandsAt line τ) :
    ∃ row ∈ rows line, Encloses row ∧
      (enclosed row).start ≤ τ.start ∧ τ.stop ≤ (enclosed row).stop := by
  obtain ⟨a, t, b, rfl, ht, rfl⟩ := hτ
  obtain ⟨x, hx, rfl⟩ := denotes_parenthesized.1 ht
  have hfeed : ∀ c ∈ '(' :: x ++ [')'], (c == '\n') = false := by
    intro c hc
    have : c ≠ '\n' := by
      rintro rfl
      simp [hx] at hc
    simpa using this
  obtain ⟨row, u, v, hmem, rfl, htext⟩ := exists_segment a b hfeed
  have hopen : row.text = u ++ '(' :: (x ++ ')' :: v) := by simp [htext]
  have hclose : row.text = u ++ '(' :: x ++ ')' :: v := by simp [htext]
  refine ⟨row, hmem, encloses_of_append hclose, ?_, ?_⟩
  · apply String.utf8Len_le_of_prefix
    rw [beforeOpening, hopen, List.prefix_append_right_inj]
    exact takeWhile_append_prefix (by simp) _
  · apply String.utf8Len_le_of_prefix
    rw [upToClosing, hclose, List.append_assoc, List.prefix_append_right_inj]
    have := prefix_rdropWhile_append (t := u ++ '(' :: x) (p := (· != ')')) (d := ')') (by simp) v
    simpa using this

theorem enclosed_stop_le_start (h : row.In (· == '\n') line) (h' : row'.In (· == '\n') line)
    (hlt : row.before.length < row'.before.length) :
    (enclosed row).stop ≤ (enclosed row').start := by
  have hclose : upToClosing row <+: row.before ++ row.text :=
    (List.prefix_append_right_inj _).2 (List.rdropWhile_prefix _ _)
  have hopen : row'.before <+: beforeOpening row' := List.prefix_append _ _
  exact String.utf8Len_le_of_prefix ((hclose.trans (h.stop_le h' hlt)).trans hopen)

theorem spans_parameters_eq (line : Text) :
    parameters.spans line = ((rows line).filter (Encloses ·)).map enclosed := by
  apply parameters.settled.spans_eq_of_cover
  · have hordered := (pairwise_segments (· == '\n') line).filter (Encloses ·)
    refine List.pairwise_map.2 (hordered.imp_of_mem fun hrow hrow' => ?_)
    exact enclosed_stop_le_start (mem_segments.1 (List.mem_filter.1 hrow).1)
      (mem_segments.1 (List.mem_filter.1 hrow').1)
  · intro σ hσ
    obtain ⟨row, hrow, rfl⟩ := List.mem_map.1 hσ
    obtain ⟨hmem, henc⟩ := List.mem_filter.1 hrow
    exact standsAt_enclosed (mem_segments.1 hmem) (by simpa using henc)
  · intro τ hτ
    obtain ⟨row, hmem, henc, hstart, hstop⟩ := exists_row_of_standsAt hτ
    exact ⟨enclosed row, List.mem_map_of_mem (List.mem_filter.2 ⟨hmem, by simpa using henc⟩),
      hstart, hstop⟩

/-- The text before the first parameters, read off the first row that encloses something. -/
theorem beforeParameters?_eq_find? (line : Text) :
    beforeParameters? line = ((rows line).find? (Encloses ·)).map beforeOpening := by
  have hhead : (parameters.pattern.spans line).head? =
      ((rows line).find? (Encloses ·)).map enclosed := by
    rw [← List.head?_filter, ← List.head?_map, ← spans_parameters_eq, Shape.spans]
  apply Option.ext
  intro left
  rw [beforeParameters?, parameters.settled.before?_eq_some_iff_spans, hhead]
  cases hfind : (rows line).find? (Encloses ·) with
  | none => simp
  | some row =>
    obtain ⟨r, hline⟩ := beforeOpening_prefix (mem_segments.1 (List.mem_of_find?_eq_some hfind))
    constructor
    · intro h
      obtain ⟨⟨r', hline'⟩, σ, hσ, hstart⟩ := h
      cases hσ
      obtain ⟨rfl, -⟩ := append_inj_of_utf8Len (hline'.trans hline.symm) hstart.symm
      rfl
    · intro h
      cases h
      exact ⟨⟨r, hline⟩, _, rfl, rfl⟩

/-- The parameters of a line, row by row. The text before the first of them ends between two
characters, and on a single row it has no opening parenthesis. -/
theorem spans_parameters (line : Text) :
    parameters.spans line = ((rows line).filter (Encloses ·)).map enclosed ∧
      (∀ row : Segment, row ∈ rows line ↔ row.In (· == '\n') line) ∧
      ((rows line).Pairwise fun row row' => row.before.length < row'.before.length) ∧
      (beforeParameters? line = none ↔ ∀ row ∈ rows line, ¬ Encloses row) ∧
      beforeParameters? line = ((rows line).find? (Encloses ·)).map beforeOpening ∧
      (∀ left, beforeParameters? line = some left → left <+: line ∧
        ∃ σ, (parameters.spans line).head? = some σ ∧ σ.start = utf8Len left) ∧
      ('\n' ∉ line → ∀ left, beforeParameters? line = some left → '(' ∉ left) := by
  refine ⟨spans_parameters_eq line, fun row => mem_segments, pairwise_segments _ line, ?_,
    beforeParameters?_eq_find? line, fun left h => parameters.settled.before?_eq_some_iff_spans.1 h,
    fun hfeed left h => paren_notMem_beforeParameters hfeed h⟩
  rw [beforeParameters?_eq_find?, Option.map_eq_none_iff, List.find?_eq_none]
  simp

-- The first parenthesis opens no parameters, since its row closes none.
theorem spans_parameters_rows :
    beforeParameters? "(\né) f(a)(b)".toList = some "(\né) f".toList ∧
      (parameters.spans "(\né) f(a)(b)".toList).head? = some ⟨7, 13⟩ ∧
      '\n' ∉ "f(a)(b)".toList ∧ beforeParameters? "f(a)(b)".toList = some "f".toList ∧
      '(' ∉ "f".toList := by
  have hleft : beforeParameters? "(\né) f(a)(b)".toList = some "(\né) f".toList := by decide +kernel
  obtain ⟨hspans, -⟩ := spans_parameters "(\né) f(a)(b)".toList
  have hleft' : beforeParameters? "f(a)(b)".toList = some "f".toList := by decide +kernel
  have hfeed : '\n' ∉ "f(a)(b)".toList := by decide
  obtain ⟨-, -, -, -, -, -, hparen⟩ := spans_parameters "f(a)(b)".toList
  refine ⟨hleft, ?_, hfeed, hleft', hparen hfeed _ hleft'⟩
  rw [hspans]
  decide +kernel

end SourceLine.Line
