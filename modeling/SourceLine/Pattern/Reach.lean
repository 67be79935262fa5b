import SourceLine.Pattern.Basic

/-!
# Reach of a pattern along a line

Where matches start and how far they go is computed for all places of a line at
once. A pattern turns the table of what follows it into the table of itself, so a
line is read once for each character, set and repetition of the pattern and never
again from another place.
-/

namespace SourceLine

/-- For each place of a line, from its start to its end, the length of the preferred
match that starts there, if one does. A line of `n` characters has `n + 1` places. -/
abbrev Reach := List (Option Nat)

namespace Reach

/-- The empty match, at every place. -/
def empty (line : Text) : Reach :=
  List.replicate (line.length + 1) (some 0)

/-- A match that starts with the character `c` of the set `s` and goes on as `next`. -/
def extend (s : Char → Bool) (c : Char) (next : Option Nat) : Option Nat :=
  if s c then next.map (· + 1) else none

/-- One character of the set `s`, and then as `next`. -/
def step (s : Char → Bool) (line : Text) (next : Reach) : Reach :=
  List.zipWith (extend s) line next.tail ++ [none]

/-- The first of two tables, and the second where the first has no match. -/
def orElse (first second : Reach) : Reach :=
  List.zipWith Option.or first second

/-- Going on with a repetition or stopping here, in the order of choice. -/
def choose (fewest : Bool) (further here : Option Nat) : Option Nat :=
  if fewest then here.or further else further.or here

/-- Any number of characters of `s`, and then as `next`. -/
def repeated (s : Char → Bool) (fewest : Bool) : Text → Reach → Reach
  | c :: line, here :: next =>
    let further := repeated s fewest line next
    choose fewest (extend s c (further.headD none)) here :: further
  | _, next => next

/-- At most `k` characters of `s`, and then as `next`. -/
def atMost (s : Char → Bool) (fewest : Bool) (line : Text) (next : Reach) : Nat → Reach
  | 0 => next
  | k + 1 => List.zipWith (choose fewest) (step s line (atMost s fewest line next k)) next

/-- For each place whether a word starts or ends there, `before` being the character
before the line. -/
def boundaries (before : Option Char) : Text → List Bool
  | [] => [Pattern.isBoundary before none]
  | c :: line => Pattern.isBoundary before (some c) :: boundaries (some c) line

/-- The matches of `next` at the places marked. -/
def only (marked : List Bool) (next : Reach) : Reach :=
  List.zipWith (fun b n => if b then n else none) marked next

end Reach

namespace Pattern

open Reach

/-- The table of the pattern on a line, `next` being the table of what follows it. -/
def sweep (line : Text) : Pattern → Reach → Reach
  | .text t, next => t.foldr (fun c next => step (· == c) line next) next
  | .boundary, next => only (boundaries none line) next
  | .run s count, next =>
    let rest := match count.extra with
      | none => repeated s.contains count.fewest line next
      | some k => atMost s.contains count.fewest line next k
    Nat.repeat (step s.contains line) count.least rest
  | .seq p q, next => p.sweep line (q.sweep line next)
  | .alt p q, next => orElse (p.sweep line next) (q.sweep line next)
  | .opt p, next => orElse (p.sweep line next) next
  | .group p, next => p.sweep line next

/-- The table of the pattern on a line. -/
def reach (p : Pattern) (line : Text) : Reach :=
  p.sweep line (Reach.empty line)

end Pattern

end SourceLine
