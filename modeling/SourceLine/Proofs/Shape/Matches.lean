import SourceLine.Proofs.Pattern.CharSet
import SourceLine.Proofs.Pattern.Matches
import SourceLine.Proofs.Shape.Texts

/-!
# Matches of the shapes

Every shape is settled (`Shape.settled`), although its pattern has greedy and lazy repetitions,
options and alternatives that overlap: before a parenthesis or brace that must follow there is
one way to match, and a repetition up to the last such character ends no earlier if it starts
later. So the matches of a shape are the longest texts of its language, leftmost first.
-/

namespace SourceLine.Shape

open Pattern Matcher

/-- A fixed character, and then texts without it. -/
theorem ordered_text_append {c : Char} {q : Pattern} (h : q.avoids c = true) :
    Ordered ((text [c] ++ q).matcher done) := by
  apply Ordered.of_head (c := c) ((text [c] ++ q).follows_denotes done)
  intro before t after ht
  obtain ⟨_, v, rfl, rfl, hv⟩ := ht
  exact ⟨v, rfl, notMem_of_avoids h hv⟩

theorem ordered_text (c : Char) : Ordered ((text [c]).matcher done) := by
  apply Ordered.of_head (c := c) ((text [c]).follows_denotes done)
  intro before t after ht
  exact ⟨[], ht, List.not_mem_nil⟩

theorem exhausts_parenthesized {k : Matcher} (hk : Ordered ((text [')']).matcher k)) :
    Exhausts parenthesized.Denotes k (parenthesized.matcher k) :=
  exhausts_seq (exhausts_seq (exhausts_text _ _) (exhausts_many hk)) (exhausts_text _ _)

theorem exhausts_openingBrace : Exhausts openingBrace.Denotes done (openingBrace.matcher done) :=
  exhausts_seq (exhausts_upTo '{' (by decide) done) (exhausts_text _ _)

theorem exhausts_opening {p : Pattern} (hp : p.avoids '(' = true) :
    Exhausts (p ++ parenthesized ++ openingBrace).Denotes done
      (p ++ parenthesized ++ openingBrace).matchAt :=
  exhausts_seq (exhausts_seq (exhausts_upTo '(' hp _)
    (exhausts_parenthesized (ordered_text_append (by decide)))) exhausts_openingBrace

theorem exhausts_classHeader :
    Exhausts classHeader.pattern.Denotes done classHeader.pattern.matchAt := by
  have hbrace : Ordered ((text ['{']).matcher done) := ordered_text '{'
  have hrest : Ordered ((many .inLine).matcher ((text ['{']).matcher done)) :=
    Ordered.repeated _ hbrace
  have hblank : ∀ k, Exhausts (many1 .blank).Denotes ((many1 .letter).matcher k)
      ((many1 .blank).matcher ((many1 .letter).matcher k)) := by
    intro k
    apply Exhausts.of_rejects (P := (· ∈ CharSet.blank)) (follows_denotes _ _)
    · intro _ t _ ht
      exact (denotes_many1.1 ht).2
    · apply rejects_many1
      intro c hc
      exact CharSet.not_mem_blank_of_mem_word (CharSet.mem_word_of_mem_letter hc)
  exact exhausts_seq (exhausts_seq (exhausts_seq (exhausts_seq (exhausts_text _ _) (hblank _))
    (exhausts_many1 hrest)) (exhausts_many hbrace)) (exhausts_text _ _)

theorem exhausts_typedHeader :
    Exhausts typedHeader.pattern.Denotes done typedHeader.pattern.matchAt := by
  have hname : (group (betweenFewest 1 200 .word) ++ boundary).avoids '(' = true := by decide
  have hparams : (group (between 0 200 .typed)).avoids ')' = true := by decide
  have htype : (group (between 0 200 .typed)).avoids '{' = true := by decide
  exact exhausts_seq (exhausts_seq (exhausts_seq (exhausts_seq (exhausts_seq
    (exhausts_upTo '(' hname _) (exhausts_text _ _)) (exhausts_upTo ')' hparams _))
    (exhausts_text _ _)) (exhausts_upTo '{' htype _)) (exhausts_text _ _)

/-- The blanks on both sides of the arrow are taken together with it. -/
theorem exhausts_boundFunction :
    Exhausts boundFunction.pattern.Denotes done boundFunction.pattern.matchAt := by
  let name := many1 .letter ++ many .blank ++ lit "=" ++ many .blank ++ opt (lit "function") ++
    many .blank ++ many .letter ++ many .blank
  let arrow := many .blank ++ opt (lit "=>") ++ many .blank
  have hregroup : boundFunction.pattern.Denotes =
      (name ++ parenthesized ++ (arrow ++ lit "\x7b")).Denotes := by
    calc boundFunction.pattern.Denotes
        = (name ++ parenthesized ++
            (many .blank ++ (opt (lit "=>") ++ openingBrace))).Denotes := by
          rw [← denotes_assoc, ← denotes_assoc]; rfl
      _ = _ := by
          apply denotes_append_congr
          rw [← denotes_assoc]
          exact (denotes_assoc ..).symm
  rw [hregroup]
  have hclose : Ordered ((text [')'] ++ (arrow ++ lit "\x7b")).matcher done) :=
    ordered_text_append (by decide)
  have hname : name.avoids '(' = true := by decide
  have harrow : arrow.avoids '{' = true := by decide
  exact exhausts_seq (exhausts_seq (exhausts_upTo '(' hname _) (exhausts_parenthesized hclose))
    (exhausts_seq (exhausts_upTo '{' harrow _) (exhausts_text _ _))

theorem exhausts_bindingNoise :
    Exhausts bindingNoise.pattern.Denotes done bindingNoise.pattern.matchAt := by
  have hassign : Exhausts (alt (lit "=") (many1 .blank)).Denotes done _ :=
    exhausts_alt (c := '=') rfl (by decide) (exhausts_many1 Ordered.done)
  have hlet : Exhausts (alt (lit "let ") (alt (lit "=") (many1 .blank))).Denotes done _ :=
    exhausts_alt (c := 'l') rfl (by decide) hassign
  have hvar := exhausts_alt (c := 'v') (t := "var ".toList) rfl (by decide) hlet
  exact exhausts_alt (c := 'c') rfl (by decide) hvar

theorem exhausts (s : Shape) : Exhausts s.pattern.Denotes done s.pattern.matchAt := by
  cases s with
  | classHeader => exact exhausts_classHeader
  | typedHeader => exact exhausts_typedHeader
  | anonymousFunction => exact exhausts_opening (by decide)
  | boundFunction => exact exhausts_boundFunction
  | control => exact exhausts_opening (by decide)
  | keywordFunction => exact exhausts_opening (by decide)
  | parameters => exact exhausts_parenthesized (ordered_text ')')
  | bindingNoise => exact exhausts_bindingNoise

theorem denotes_alone (s : Shape) {before after : Option Char} {t : Text} :
    s.pattern.Denotes before t after ↔ s.pattern.Language t := by
  cases s with
  | typedHeader => exact denotes_typedHeader.trans denotes_typedHeader.symm
  | _ => exact denotes_iff_language (by decide)

theorem settled (s : Shape) : s.pattern.Settled where
  ne_nil ht := ne_nil_of_consumes (by cases s <;> decide) ht
  alone := s.denotes_alone
  exhausts := s.exhausts

/-- A shape occurs in a line exactly if a part of the line is one of its texts. -/
theorem occursIn_iff_language {s : Shape} {line : Text} :
    s.occursIn line = true ↔ ∃ a t b, line = a ++ t ++ b ∧ s.pattern.Language t := by
  simp only [occursIn, occursIn_iff, denotes_alone]

theorem occursIn_iff_exists {s : Shape} {line : Text} :
    s.occursIn line = true ↔ ∃ t, t <:+: line ∧ s.pattern.Language t :=
  s.settled.occursIn_iff_exists

theorem occursIn_eq_false {s : Shape} {c : Char} {line : Text} (h : s.pattern.demands c = true)
    (hc : c ∉ line) : s.occursIn line = false := by
  apply Bool.eq_false_iff.2
  intro hs
  obtain ⟨a, t, b, rfl, ht⟩ := occursIn_iff_language.1 hs
  have := mem_of_demands h ht
  simp [this] at hc

/-- The successive matches of a shape, without regard to any order of choice: the spans are the
only list of spans that are leftmost and longest one after the other. They are not empty, lie
between characters, and do not overlap. -/
theorem spans_leftmostLongest (s : Shape) (line : Text) :
    (∀ l, s.pattern.LeftmostLongest line 0 l ↔ l = s.spans line) ∧
      (∀ σ ∈ s.spans line, σ.start < σ.stop ∧ ∃ a t b, line = a ++ t ++ b ∧
        σ = ⟨String.utf8Len a, String.utf8Len (a ++ t)⟩) ∧
      (s.spans line).Pairwise (fun σ τ => σ.stop ≤ τ.start) ∧
      (s.occursIn line = true ↔ ∃ a t b, line = a ++ t ++ b ∧ s.pattern.Language t) := by
  have hspans := s.settled.leftmostLongest_spans line
  refine ⟨fun l => ⟨fun hl => hl.unique hspans, fun hl => hl ▸ hspans⟩, ?_, hspans.pairwise,
    occursIn_iff_language⟩
  intro σ hσ
  have hstands := hspans.standsAt hσ
  refine ⟨s.settled.standsAt_lt hstands, ?_⟩
  obtain ⟨a, t, b, hline, -, hσ⟩ := hstands
  exact ⟨a, t, b, hline, hσ⟩

end SourceLine.Shape
