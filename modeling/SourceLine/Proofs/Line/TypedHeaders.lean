import Mathlib.Data.List.DropRight
import Mathlib.Data.List.Nodup
import SourceLine.Proofs.Line.Header
import SourceLine.Proofs.Pattern.Cuts

/-!
# Typed headers of a line

The matches of the typed header, read off the parentheses of a line. A parenthesis opens a header
if a name ends right before it and parameters, a type and a brace follow. The match starts with
the name, or two hundred characters before the parenthesis where the name is longer: a long name
is cut, never refused. Since parameters and types have no parenthesis and names have no brace, one
header ends before the name of the next one starts (`TypedHeader.In.stop_le_start`), so none is
passed over.
-/

namespace SourceLine

open String (utf8Len)

namespace Text

variable {t : Text}

theorem utf8Len_of_word (ht : ∀ c ∈ t, c ∈ CharSet.word) : utf8Len t = t.length := by
  induction t with
  | nil => rfl
  | cons c t ih =>
    have hc : c.utf8Size = 1 := by
      have hword := CharSet.mem_word_toNat.1 (ht c List.mem_cons_self)
      rw [Char.utf8Size_eq_one_iff, UInt32.le_iff_toNat_le]
      change c.toNat ≤ 127
      omega
    rw [String.utf8Len_cons, hc, ih fun d hd => ht d (List.mem_cons_of_mem c hd), List.length_cons]

end Text

namespace Line

open Pattern Shape Text

/-- A typed header in a line, by the texts around its parenthesis and its brace. -/
structure TypedHeader where
  /-- The text before the parenthesis. -/
  left : Text
  params : Text
  type : Text
  /-- The text after the brace. -/
  after : Text
deriving DecidableEq

namespace TypedHeader

/-- The line up to the brace of the header. -/
def upToBrace (h : TypedHeader) : Text :=
  header h.left h.params h.type

/-- The header stands in the line: a name of any length ends right before its parenthesis. -/
structure In (h : TypedHeader) (line : Text) : Prop where
  line_eq : line = h.upToBrace ++ h.after
  named : WordEnded h.left
  typed_params : Typed h.params
  typed_type : Typed h.type

/-- The place of the parenthesis, by its UTF-8 offset. -/
def place (h : TypedHeader) : Nat :=
  utf8Len h.left

/-- The place where the name before the parenthesis starts. -/
def nameStart (h : TypedHeader) : Nat :=
  utf8Len (h.left.rdropWhile CharSet.word.contains)

/-- From the name, or the last two hundred characters of a longer one, to the brace. -/
def span (h : TypedHeader) : Span where
  start := max (h.place - 200) h.nameStart
  stop := utf8Len h.upToBrace

theorem start_span (h : TypedHeader) : h.span.start = max (h.place - 200) h.nameStart := rfl

theorem stop_span (h : TypedHeader) : h.span.stop = utf8Len h.upToBrace := rfl

/-- The header whose parenthesis stands between two texts. -/
def between? (left rest : Text) : Option TypedHeader := do
  let (params, rest) ← breakOn? [')'] rest
  let (type, after) ← breakOn? ['{'] rest
  if WordEnded left ∧ Typed params ∧ Typed type then
    some { left, params, type, after }
  else none

end TypedHeader

/-- The typed headers of a line, by the places of their parentheses. -/
def typedHeaders (line : Text) : List TypedHeader :=
  (cuts '(' line).filterMap fun x => TypedHeader.between? x.1 x.2

namespace TypedHeader

variable {h h' : TypedHeader} {line left rest : Text} {τ : Span}

theorem between?_eq_some_iff : between? left rest = some h ↔
    h.left = left ∧ rest = h.params ++ ')' :: (h.type ++ '{' :: h.after) ∧
      WordEnded h.left ∧ Typed h.params ∧ Typed h.type := by
  constructor
  · intro hsome
    obtain ⟨⟨params, rest'⟩, hparams, hrest⟩ := Option.bind_eq_some_iff.1 hsome
    obtain ⟨⟨type, after⟩, htype, hchecked⟩ := Option.bind_eq_some_iff.1 hrest
    obtain ⟨hok, heq⟩ := Option.ite_none_right_eq_some.1 hchecked
    cases heq
    obtain ⟨rfl, -⟩ := breakOn?_singleton_iff.1 hparams
    obtain ⟨rfl, -⟩ := breakOn?_singleton_iff.1 htype
    exact ⟨rfl, rfl, hok⟩
  · intro hparts
    obtain ⟨rfl, rfl, hok⟩ := hparts
    have hparams : ')' ∉ h.params := hok.2.1.notMem
    have htype : '{' ∉ h.type := hok.2.2.notMem
    simp only [between?, breakOn?_singleton_iff.2 ⟨rfl, hparams⟩,
      breakOn?_singleton_iff.2 ⟨rfl, htype⟩, Option.bind_eq_bind, Option.bind_some]
    exact if_pos hok

theorem mem_typedHeaders : h ∈ typedHeaders line ↔ h.In line := by
  simp only [typedHeaders, List.mem_filterMap, between?_eq_some_iff, Prod.exists, mem_cuts]
  constructor
  · intro hmem
    obtain ⟨left, rest, rfl, rfl, rfl, hok⟩ := hmem
    exact ⟨by simp [upToBrace, header], hok.1, hok.2.1, hok.2.2⟩
  · intro hin
    exact ⟨_, _, by simpa [upToBrace, header] using hin.line_eq, rfl, rfl, hin.named,
      hin.typed_params, hin.typed_type⟩

theorem pairwise_typedHeaders (line : Text) :
    (typedHeaders line).Pairwise fun h h' => h.place < h'.place := by
  refine (pairwise_cuts '(' line).filterMap _ ?_
  intro x y hlt h hx h' hy
  obtain ⟨hleft, -⟩ := between?_eq_some_iff.1 hx
  obtain ⟨hleft', -⟩ := between?_eq_some_iff.1 hy
  rwa [place, place, hleft, hleft']

/-- The parenthesis tells the headers of a line apart. -/
theorem In.eq_of_place (hin : h.In line) (hin' : h'.In line) (heq : h.place = h'.place) :
    h = h' := by
  have hnodup : ((typedHeaders line).map place).Nodup :=
    List.pairwise_map.2 ((pairwise_typedHeaders line).imp Nat.ne_of_lt)
  exact List.inj_on_of_nodup_map hnodup (mem_typedHeaders.2 hin) (mem_typedHeaders.2 hin') heq

/-! ## Headers and matches -/

/-- The part of the name that a match takes. -/
theorem In.exists_name (hin : h.In line) : ∃ a n, h.left = a ++ n ∧ utf8Len a = h.span.start ∧
    (∀ c ∈ n, c ∈ CharSet.word) ∧ 1 ≤ n.length ∧ n.length ≤ 200 := by
  have hsplit := List.rdropWhile_append_rtakeWhile (p := CharSet.word.contains) (l := h.left)
  have hword : ∀ c ∈ h.left.rtakeWhile CharSet.word.contains, c ∈ CharSet.word := fun c hc =>
    List.mem_rtakeWhile_imp hc
  have hpos : 0 < (h.left.rtakeWhile CharSet.word.contains).length := by
    obtain ⟨c, hc, hc'⟩ := hin.named
    obtain ⟨pre, hleft⟩ := List.getLast?_eq_some_iff.1 hc
    rw [hleft, List.rtakeWhile_concat_pos _ _ c hc']
    simp
  have hplace : h.place = h.nameStart + (h.left.rtakeWhile CharSet.word.contains).length := by
    rw [place, nameStart, ← utf8Len_of_word hword, ← String.utf8Len_append, hsplit]
  generalize h.left.rtakeWhile CharSet.word.contains = name at hsplit hword hpos hplace
  refine ⟨h.left.rdropWhile CharSet.word.contains ++ name.take (name.length - 200),
    name.drop (name.length - 200), ?_, ?_, ?_, ?_, ?_⟩
  · rw [List.append_assoc, List.take_append_drop, hsplit]
  · have htake : ∀ c ∈ name.take (name.length - 200), c ∈ CharSet.word := fun c hc =>
      hword c (List.mem_of_mem_take hc)
    rw [String.utf8Len_append, utf8Len_of_word htake, List.length_take, start_span, hplace,
      ← nameStart]
    omega
  · exact fun c hc => hword c (List.mem_of_mem_drop hc)
  · rw [List.length_drop]
    omega
  · rw [List.length_drop]
    omega

theorem In.standsAt (hin : h.In line) : typedHeader.pattern.StandsAt line h.span := by
  obtain ⟨a, n, hleft, hstart, hn, hpos, hle⟩ := hin.exists_name
  have hbrace : h.upToBrace = a ++ (n ++ '(' :: h.params ++ ')' :: h.type ++ ['{']) := by
    simp [upToBrace, header, hleft]
  refine ⟨a, n ++ '(' :: h.params ++ ')' :: h.type ++ ['{'], h.after, ?_, ?_, ?_⟩
  · rw [← hbrace]
    exact hin.line_eq
  · exact denotes_typedHeader.2 ⟨n, h.params, h.type, ⟨hn, hpos, hle⟩,
      ⟨hin.typed_params.mem, hin.typed_params.length_le⟩,
      ⟨hin.typed_type.mem, hin.typed_type.length_le⟩, rfl⟩
  · rw [← hbrace, hstart]
    rfl

/-- Every text of a typed header in the line ends with a header, and starts in its name. -/
theorem exists_of_standsAt (hτ : typedHeader.pattern.StandsAt line τ) :
    ∃ h : TypedHeader, h.In line ∧ h.span.start ≤ τ.start ∧ τ.stop = h.span.stop := by
  obtain ⟨a, t, b, rfl, ht, rfl⟩ := hτ
  obtain ⟨n, x, y, ⟨hn, hpos, hle⟩, ⟨hx, hx'⟩, ⟨hy, hy'⟩, rfl⟩ := denotes_typedHeader.1 ht
  have hname : Name .word n := ⟨List.length_pos_iff.1 hpos, hn⟩
  refine ⟨⟨a ++ n, x, y, b⟩, ⟨?_, hname.wordEnded_append a, ⟨hx, hx'⟩, ⟨hy, hy'⟩⟩, ?_, ?_⟩
  · simp [upToBrace, header]
  · rw [start_span]
    apply max_le
    · rw [place, String.utf8Len_append, utf8Len_of_word hn]
      exact Nat.sub_le_of_le_add (Nat.add_le_add_left hle _)
    · rw [nameStart, rdropWhile_append_of_forall hn]
      exact String.utf8Len_le_of_prefix (List.rdropWhile_prefix _ _)
  · simp [stop_span, upToBrace, header]

/-- The next parenthesis stands behind the brace of a header, and so does the name before it. -/
theorem In.stop_le_start (hin : h.In line) (hin' : h'.In line) (hlt : h.place < h'.place) :
    h.span.stop ≤ h'.span.start := by
  have hcut : h.left ++ '(' :: (h.params ++ ')' :: h.type ++ ['{'] ++ h.after) =
      h'.left ++ '(' :: (h'.params ++ ')' :: h'.type ++ ['{'] ++ h'.after) := by
    have hline := hin.line_eq.symm.trans hin'.line_eq
    simpa [upToBrace, header] using hline
  obtain ⟨w, hleft, hrest⟩ := prefix_of_utf8Len_le hcut (Nat.le_of_lt hlt)
  cases w with
  | nil => exact absurd hlt (by simp [place, hleft])
  | cons d w =>
    obtain ⟨rfl, hbehind⟩ := List.cons_eq_cons.1 hrest
    have hparams : '(' ∉ h.params := hin.typed_params.notMem
    have htype : '(' ∉ h.type := hin.typed_type.notMem
    have hopen : '(' ∉ h.params ++ ')' :: h.type ++ ['{'] := by simp [hparams, htype]
    obtain ⟨z, rfl, -⟩ := append_cons_eq_append_of_notMem_left hbehind.symm hopen
    have hleft' : h'.left = h.left ++ '(' :: h.params ++ ')' :: h.type ++ '{' :: z := by
      simp [hleft]
    have hbrace : ¬ CharSet.word.contains '{' = true := by decide
    have hname : h.span.stop ≤ h'.nameStart := by
      rw [nameStart, hleft']
      exact String.utf8Len_le_of_prefix (prefix_rdropWhile_append hbrace z)
    exact Nat.le_trans hname (Nat.le_max_right _ _)

end TypedHeader

/-- The matches of the typed header in a line are the headers of its parentheses, one for each
parenthesis that opens one, in their order. -/
theorem spans_typedHeader (line : Text) :
    Shape.typedHeader.spans line = (typedHeaders line).map TypedHeader.span ∧
      (∀ h : TypedHeader, h ∈ typedHeaders line ↔ h.In line) ∧
      ((typedHeaders line).Pairwise fun h h' => h.place < h'.place) ∧
      (∀ h h' : TypedHeader, h.In line → h'.In line → h.place = h'.place → h = h') ∧
      (hasTypedHeader line = true ↔ ∃ h : TypedHeader, h.In line) := by
  have hmem : ∀ h : TypedHeader, h ∈ typedHeaders line ↔ h.In line := fun h =>
    TypedHeader.mem_typedHeaders
  have hpair := TypedHeader.pairwise_typedHeaders line
  refine ⟨?_, hmem, hpair, fun h h' => TypedHeader.In.eq_of_place, ?_⟩
  · apply typedHeader.settled.spans_eq_of_cover
    · refine List.pairwise_map.2 (hpair.imp_of_mem fun hin hin' hlt => ?_)
      exact ((hmem _).1 hin).stop_le_start ((hmem _).1 hin') hlt
    · intro σ hσ
      obtain ⟨h, hh, rfl⟩ := List.mem_map.1 hσ
      exact ((hmem h).1 hh).standsAt
    · intro τ hτ
      obtain ⟨h, hin, hstart, hstop⟩ := TypedHeader.exists_of_standsAt hτ
      exact ⟨h.span, List.mem_map_of_mem ((hmem h).2 hin), hstart, Nat.le_of_eq hstop⟩
  · rw [hasTypedHeader, occursIn_iff_language]
    constructor
    · intro hline
      obtain ⟨a, t, b, rfl, ht⟩ := hline
      obtain ⟨h, hin, -⟩ := TypedHeader.exists_of_standsAt ⟨a, t, b, rfl, ht, rfl⟩
      exact ⟨h, hin⟩
    · intro hline
      obtain ⟨h, hin⟩ := hline
      obtain ⟨a, t, b, rfl, ht, -⟩ := hin.standsAt
      exact ⟨a, t, b, rfl, ht⟩

-- The parenthesis of `g` opens no header, since its parameters have a parenthesis.
set_option maxRecDepth 4096 in
example : (typedHeaders "é f(a) \x7b g(b(c): T \x7b".toList).map TypedHeader.span =
    [⟨3, 9⟩, ⟨12, 21⟩] := by
  decide +kernel

end Line

end SourceLine
