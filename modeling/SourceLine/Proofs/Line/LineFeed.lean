import SourceLine.Line.Detect
import SourceLine.Proofs.Pattern.Cuts
import SourceLine.Proofs.Shape.Matches
import SourceLine.Proofs.Text.Break

/-!
# Line feeds in a line

A text of several lines is searched as one. The run of any characters in a shape ends with the
line, but the blanks between its parts may have a line feed among them, so all shapes but the
typed header can stand across it. What two lines joined by a line feed open is what either of
them opens, and what stands across (`Shape.occursIn_joined_iff`).
-/

namespace SourceLine

/-- A text of the pattern ends here. -/
def Pattern.Ends (p : Pattern) (t : Text) : Prop :=
  ∃ u v, t = u ++ v ∧ p.Language v

namespace Shape

open Pattern

/-- What stands before and after a line feed in a shape, for each place of the shape that may
have one. -/
def feeds : Shape → List (Pattern × Pattern)
  | classHeader =>
    [(lit "class" ++ many .blank, many .blank ++ many1 .letter ++ many .inLine ++ lit "\x7b")]
  | typedHeader => []
  | anonymousFunction =>
    [(lit "function" ++ many .blank, many .blank ++ parenthesized ++ openingBrace),
     (lit "function" ++ many .blank ++ parenthesized ++ many .blank, openingBrace)]
  | boundFunction =>
    [(many1 .letter ++ many .blank,
      many .blank ++ lit "=" ++ many .blank ++ opt (lit "function") ++ many .blank ++
        many .letter ++ many .blank ++ parenthesized ++ many .blank ++ opt (lit "=>") ++
        openingBrace),
     (many1 .letter ++ many .blank ++ lit "=" ++ many .blank,
      many .blank ++ opt (lit "function") ++ many .blank ++ many .letter ++ many .blank ++
        parenthesized ++ many .blank ++ opt (lit "=>") ++ openingBrace),
     (many1 .letter ++ many .blank ++ lit "=" ++ many .blank ++ opt (lit "function") ++
        many .blank,
      many .blank ++ many .letter ++ many .blank ++ parenthesized ++ many .blank ++
        opt (lit "=>") ++ openingBrace),
     (many1 .letter ++ many .blank ++ lit "=" ++ many .blank ++ opt (lit "function") ++
        many .blank ++ many .letter ++ many .blank,
      many .blank ++ parenthesized ++ many .blank ++ opt (lit "=>") ++ openingBrace),
     (many1 .letter ++ many .blank ++ lit "=" ++ many .blank ++ opt (lit "function") ++
        many .blank ++ many .letter ++ many .blank ++ parenthesized ++ many .blank,
      many .blank ++ opt (lit "=>") ++ openingBrace),
     (many1 .letter ++ many .blank ++ lit "=" ++ many .blank ++ opt (lit "function") ++
        many .blank ++ many .letter ++ many .blank ++ parenthesized ++ many .blank ++
        opt (lit "=>") ++ many .blank,
      openingBrace)]
  | control =>
    [(alt (lit "if") (alt (lit "switch") (alt (lit "while") (lit "for"))) ++ many .blank,
      many .blank ++ parenthesized ++ openingBrace),
     (alt (lit "if") (alt (lit "switch") (alt (lit "while") (lit "for"))) ++ many .blank ++
        parenthesized ++ many .blank,
      openingBrace)]
  | keywordFunction =>
    [(lit "function" ++ many .blank,
      many .blank ++ many1 .letter ++ many .blank ++ parenthesized ++ openingBrace),
     (lit "function" ++ many1 .blank ++ many1 .letter ++ many .blank,
      many .blank ++ parenthesized ++ openingBrace),
     (lit "function" ++ many1 .blank ++ many1 .letter ++ many .blank ++ parenthesized ++
        many .blank,
      openingBrace)]
  | parameters => []
  | bindingNoise => [(many .blank, many .blank)]

theorem cuts_eq_feeds (s : Shape) : s.pattern.cuts '\n' = s.feeds := by
  cases s <;> rfl

/-- The shape stands across the line feed between two lines. -/
def Straddles (s : Shape) (l₁ l₂ : Text) : Prop :=
  ∃ x ∈ s.feeds, x.1.Ends l₁ ∧ x.2.Starts l₂

/-- No cut has a boundary: the only shape with one, the typed header, is not cut. -/
theorem boundaryFree_feeds (s : Shape) {x : Pattern × Pattern} (hx : x ∈ s.feeds) :
    x.1.boundaryFree = true ∧ x.2.boundaryFree = true := by
  have hall : ∀ x ∈ s.feeds, x.1.boundaryFree = true ∧ x.2.boundaryFree = true := by
    cases s <;> decide
  exact hall x hx

theorem language_append_feed_iff {s : Shape} {u v : Text} :
    s.pattern.Language (u ++ '\n' :: v) ↔ ∃ x ∈ s.feeds, x.1.Language u ∧ x.2.Language v := by
  rw [Pattern.Language, denotes_append_cons_iff, cuts_eq_feeds]
  refine exists_congr fun x => and_congr_right fun hx => ?_
  obtain ⟨hl, hr⟩ := s.boundaryFree_feeds hx
  rw [denotes_iff_language hl, denotes_iff_language hr]

/-- A shape that occurs in two lines joined by a line feed occurs in one of them or stands
across. -/
theorem occursIn_joined_iff {s : Shape} {l₁ l₂ : Text} :
    s.occursIn (l₁ ++ '\n' :: l₂) = true ↔
      s.occursIn l₁ = true ∨ s.occursIn l₂ = true ∨ s.Straddles l₁ l₂ := by
  simp only [occursIn_iff_exists, Text.infix_append_cons_cases, or_and_right, exists_or]
  refine or_congr_right (or_congr_right ?_)
  constructor
  · intro h
    obtain ⟨_, ⟨u, v, rfl, ⟨a, rfl⟩, b, rfl⟩, h⟩ := h
    obtain ⟨x, hx, hu, hv⟩ := language_append_feed_iff.1 h
    exact ⟨x, hx, ⟨a, u, rfl, hu⟩, v, b, rfl, hv⟩
  · intro h
    obtain ⟨x, hx, ⟨a, u, rfl, hu⟩, v, b, rfl, hv⟩ := h
    exact ⟨_, ⟨u, v, rfl, List.suffix_append .., List.prefix_append ..⟩,
      language_append_feed_iff.2 ⟨x, hx, hu, hv⟩⟩

end Shape

namespace Line

/-- What two lines joined by a line feed open. Typed headers are found in either of them; the
other constructs also where they stand across the line feed. -/
theorem opens_joined_iff (l₁ l₂ : Text) :
    (hasTypedHeader (l₁ ++ '\n' :: l₂) = true ↔
      hasTypedHeader l₁ = true ∨ hasTypedHeader l₂ = true) ∧
    (opensClass (l₁ ++ '\n' :: l₂) = true ↔
      opensClass l₁ = true ∨ opensClass l₂ = true ∨ Shape.classHeader.Straddles l₁ l₂) ∧
    (opensAnonymousFunction (l₁ ++ '\n' :: l₂) = true ↔
      opensAnonymousFunction l₁ = true ∨ opensAnonymousFunction l₂ = true ∨
        Shape.anonymousFunction.Straddles l₁ l₂) ∧
    (bindsFunction (l₁ ++ '\n' :: l₂) = true ↔
      bindsFunction l₁ = true ∨ bindsFunction l₂ = true ∨
        Shape.boundFunction.Straddles l₁ l₂) ∧
    (opensControl (l₁ ++ '\n' :: l₂) = true ↔
      opensControl l₁ = true ∨ opensControl l₂ = true ∨ Shape.control.Straddles l₁ l₂) := by
  have hheader : ¬ Shape.typedHeader.Straddles l₁ l₂ := by
    rintro ⟨x, hx, -⟩
    cases hx
  refine ⟨?_, Shape.occursIn_joined_iff, Shape.occursIn_joined_iff, Shape.occursIn_joined_iff,
    Shape.occursIn_joined_iff⟩
  exact Shape.occursIn_joined_iff.trans (or_congr_right (or_iff_left hheader))

theorem opens_only_joined :
    (opensClass "class".toList = false ∧ opensClass "Foo \x7b".toList = false ∧
      opensClass "class\nFoo \x7b".toList = true) ∧
    (opensAnonymousFunction "function (x)".toList = false ∧
      opensAnonymousFunction "\x7b".toList = false ∧
      opensAnonymousFunction "function (x)\n\x7b".toList = true) ∧
    (bindsFunction "f = (x) =>".toList = false ∧ bindsFunction "\x7b".toList = false ∧
      bindsFunction "f = (x) =>\n\x7b".toList = true) ∧
    (opensControl "if (x)".toList = false ∧ opensControl "\x7b".toList = false ∧
      opensControl "if (x)\n\x7b".toList = true) := by
  decide +kernel

end Line

end SourceLine
