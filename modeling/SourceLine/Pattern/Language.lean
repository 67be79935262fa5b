import SourceLine.Pattern.Basic

/-!
# Language of a pattern

The texts that a pattern describes, regardless of any order of choice.
-/

namespace SourceLine

/-- The numbers of repetitions allowed. -/
def Repeat.Allows (r : Repeat) (n : Nat) : Prop :=
  r.least ≤ n ∧ ∀ k ∈ r.extra, n ≤ r.least + k

namespace Pattern

/-- `p.Denotes before t after` says that `t` is a text of `p` where it stands between
the characters `before` and `after`, `none` being an end of the line. -/
def Denotes : Pattern → Option Char → Text → Option Char → Prop
  | .text u, _, t, _ => t = u
  | .boundary, before, t, after => t = [] ∧ isBoundary before after = true
  | .run s count, _, t, _ => (∀ c ∈ t, c ∈ s) ∧ count.Allows t.length
  | .seq p q, before, t, after =>
    ∃ u v, t = u ++ v ∧ p.Denotes before u (v.head?.or after) ∧
      q.Denotes (u.getLast?.or before) v after
  | .alt p q, before, t, after => p.Denotes before t after ∨ q.Denotes before t after
  | .opt p, before, t, after => p.Denotes before t after ∨ t = []
  | .group p, before, t, after => p.Denotes before t after

/-- The texts of a pattern that stand alone. -/
def Language (p : Pattern) (t : Text) : Prop :=
  p.Denotes none t none

end Pattern

end SourceLine
