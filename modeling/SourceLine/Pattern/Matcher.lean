import SourceLine.Pattern.Language
import SourceLine.Pattern.Reach

/-!
# Matching at one place

A matcher looks at the characters after a place, and at the one before it. The
matcher of a pattern tries the ways to match it one after the other, and `reach_eq`
says that the table of a pattern lists what its matcher finds at each place.
-/

namespace SourceLine

/-- What is found at a place between the character `before` and the text after it:
the length of a match. -/
abbrev Matcher := Option Char → Text → Option Nat

namespace Matcher

/-- What a matcher finds at each place of a line that follows `before`. -/
def table (m : Matcher) (before : Option Char) : Text → Reach
  | [] => [m before []]
  | c :: line => m before (c :: line) :: table m (some c) line

/-- One character of `s`, and then as `k`. -/
def step (s : Char → Bool) (k : Matcher) : Matcher
  | _, [] => none
  | _, c :: t => Reach.extend s c (k (some c) t)

/-- Any number of characters of `s`, and then as `k`. -/
def repeated (s : Char → Bool) (fewest : Bool) (k : Matcher) : Matcher
  | before, [] => k before []
  | before, c :: t =>
    Reach.choose fewest (Reach.extend s c (repeated s fewest k (some c) t)) (k before (c :: t))

/-- At most `n` characters of `s`, and then as `k`. -/
def atMost (s : Char → Bool) (fewest : Bool) (k : Matcher) : Nat → Matcher
  | 0 => k
  | n + 1 => fun before t =>
    Reach.choose fewest (step s (atMost s fewest k n) before t) (k before t)

end Matcher

namespace Pattern

open Matcher

/-- The matcher of a pattern, `k` being the matcher of what follows it. -/
def matcher : Pattern → Matcher → Matcher
  | .text t, k => t.foldr (fun c k => step (· == c) k) k
  | .boundary, k => fun before t =>
    if isBoundary before t.head? then k before t else none
  | .run s count, k =>
    let rest := match count.extra with
      | none => repeated s.contains count.fewest k
      | some n => atMost s.contains count.fewest k n
    Nat.repeat (step s.contains) count.least rest
  | .seq p q, k => p.matcher (q.matcher k)
  | .alt p q, k => fun before t => (p.matcher k before t).or (q.matcher k before t)
  | .opt p, k => fun before t => (p.matcher k before t).or (k before t)
  | .group p, k => p.matcher k

/-- The preferred match of a pattern at a place. -/
def matchAt (p : Pattern) : Matcher :=
  p.matcher fun _ _ => some 0

end Pattern

namespace Matcher

@[simp] theorem headD_table (k : Matcher) (before : Option Char) (line : Text) :
    (k.table before line).headD none = k before line := by
  cases line <;> rfl

theorem table_zipWith (f : Option Nat → Option Nat → Option Nat) (k l : Matcher)
    (before : Option Char) (line : Text) :
    List.zipWith f (k.table before line) (l.table before line) =
      table (fun before t => f (k before t) (l before t)) before line := by
  induction line generalizing before with
  | nil => rfl
  | cons c line ih => simp [table, ih]

theorem step_table (s : Char → Bool) (k : Matcher) (before : Option Char) (line : Text) :
    Reach.step s line (k.table before line) = (step s k).table before line := by
  induction line generalizing before with
  | nil => rfl
  | cons c line ih =>
    have hd : ∀ b, k.table b line = k b line :: (k.table b line).tail := by
      intro b; cases line <;> rfl
    have := ih (some c)
    simp only [Reach.step, table, List.tail_cons] at this ⊢
    rw [hd (some c)]
    simp only [List.zipWith_cons_cons, List.cons_append, this]
    rfl

theorem repeated_table (s : Char → Bool) (fewest : Bool) (k : Matcher)
    (before : Option Char) (line : Text) :
    Reach.repeated s fewest line (k.table before line) =
      (repeated s fewest k).table before line := by
  induction line generalizing before with
  | nil => rfl
  | cons c line ih =>
    simp only [table, Reach.repeated, ih, headD_table]
    rfl

theorem atMost_table (s : Char → Bool) (fewest : Bool) (k : Matcher) (n : Nat)
    (before : Option Char) (line : Text) :
    Reach.atMost s fewest line (k.table before line) n =
      (atMost s fewest k n).table before line := by
  induction n with
  | zero => rfl
  | succ n ih => simp only [Reach.atMost, ih, step_table, table_zipWith]; rfl

theorem repeat_step_table (s : Char → Bool) (k : Matcher) (n : Nat)
    (before : Option Char) (line : Text) :
    Nat.repeat (Reach.step s line) n (k.table before line) =
      (Nat.repeat (step s) n k).table before line := by
  induction n with
  | zero => rfl
  | succ n ih => simp only [Nat.repeat, ih, step_table]

theorem text_table (t : Text) (k : Matcher) (before : Option Char) (line : Text) :
    t.foldr (fun c next => Reach.step (· == c) line next) (k.table before line) =
      table (t.foldr (fun c k => step (· == c) k) k) before line := by
  induction t with
  | nil => rfl
  | cons c t ih => simp only [List.foldr_cons, ih, step_table]

theorem only_boundaries_table (k : Matcher) (before : Option Char) (line : Text) :
    Reach.only (Reach.boundaries before line) (k.table before line) =
      (Pattern.boundary.matcher k).table before line := by
  induction line generalizing before with
  | nil => rfl
  | cons c line ih =>
    have := ih (some c)
    simp only [Reach.only, Reach.boundaries, table, List.zipWith_cons_cons] at this ⊢
    rw [this]
    rfl

theorem empty_eq_table (before : Option Char) (line : Text) :
    Reach.empty line = table (fun _ _ => some 0) before line := by
  induction line generalizing before with
  | nil => rfl
  | cons c line ih =>
    rw [table, ← ih (some c)]
    rfl

end Matcher

namespace Pattern

/-- Sweeping over the table of `k` gives the table of the pattern followed by `k`. -/
theorem sweep_table (p : Pattern) (k : Matcher) (line : Text) :
    p.sweep line (k.table none line) = (p.matcher k).table none line := by
  induction p generalizing k with
  | text t => exact Matcher.text_table t k none line
  | boundary => exact Matcher.only_boundaries_table k none line
  | run s count =>
    obtain ⟨least, extra, fewest⟩ := count
    cases extra with
    | none => simp only [sweep, Matcher.repeated_table, Matcher.repeat_step_table]; rfl
    | some n => simp only [sweep, Matcher.atMost_table, Matcher.repeat_step_table]; rfl
  | seq p q ihp ihq => simp only [sweep, ihq, ihp]; rfl
  | alt p q ihp ihq =>
    simp only [sweep, ihq, ihp, Reach.orElse, Matcher.table_zipWith]; rfl
  | opt p ih => simp only [sweep, ih, Reach.orElse, Matcher.table_zipWith]; rfl
  | group p ih => exact ih k

/-- The table of a pattern lists its preferred match at each place. -/
theorem reach_eq (p : Pattern) (line : Text) : p.reach line = p.matchAt.table none line := by
  rw [reach, Matcher.empty_eq_table none, sweep_table]
  rfl

end Pattern

end SourceLine
