import SourceLine.Pattern.Matcher
import SourceLine.Pattern.Pieces

/-!
# Occurrences of a pattern

A matcher follows a description of texts if it finds exactly the texts described
that the rest accepts. The matcher of a pattern follows its language, so a pattern
occurs in a line exactly if a part of the line is one of its texts (`occursIn_iff`).
-/

namespace SourceLine

namespace Matcher

/-- `m.Follows D k` says that `m` matches a text of `D` and then goes on as `k`: each
match it finds is of this form, and it finds one wherever there is one. -/
structure Follows (D : Option Char → Text → Option Char → Prop) (k m : Matcher) : Prop where
  sound {before t n} : m before t = some n → ∃ u v l, t = u ++ v ∧ D before u v.head? ∧
    k (u.getLast?.or before) v = some l ∧ n = u.length + l
  complete {before u v} : D before u v.head? → (k (u.getLast?.or before) v).isSome →
    (m before (u ++ v)).isSome

theorem getLast?_cons_or (c : Char) (t : Text) (before : Option Char) :
    (c :: t).getLast?.or before = t.getLast?.or (some c) := by
  rw [List.getLast?_cons]
  cases t.getLast? <;> rfl

theorem isSome_choose {fewest : Bool} {further here : Option Nat} :
    (Reach.choose fewest further here).isSome = (further.isSome || here.isSome) := by
  cases fewest <;> cases further <;> cases here <;> rfl

theorem eq_some_of_choose {fewest : Bool} {further here : Option Nat} {n : Nat}
    (h : Reach.choose fewest further here = some n) : further = some n ∨ here = some n := by
  cases fewest <;> cases further <;> cases here <;> simp_all [Reach.choose]

namespace Follows

variable {D E : Option Char → Text → Option Char → Prop} {k l m : Matcher}

theorem congr (h : Follows D k m) (hd : ∀ before t after, D before t after ↔ E before t after) :
    Follows E k m where
  sound hm := by
    obtain ⟨u, v, l, ht, hu, hl⟩ := h.sound hm
    exact ⟨u, v, l, ht, (hd ..).1 hu, hl⟩
  complete hu := h.complete ((hd ..).2 hu)

/-- Nothing before the rest. -/
theorem refl (k : Matcher) : Follows (fun _ t _ => t = []) k k where
  sound {_ t n} hm := ⟨[], t, n, rfl, rfl, hm, by simp⟩
  complete := by rintro before _ v rfl hk; exact hk

/-- A text of `D` and then one of `E`. -/
theorem trans (hm : Follows D l m) (hl : Follows E k l) :
    Follows (fun before t after => ∃ u v, t = u ++ v ∧ D before u (v.head?.or after) ∧
      E (u.getLast?.or before) v after) k m where
  sound h := by
    obtain ⟨u, t, i, rfl, hu, ht, rfl⟩ := hm.sound h
    obtain ⟨v, w, j, rfl, hv, hw, rfl⟩ := hl.sound ht
    refine ⟨u ++ v, w, j, by simp, ⟨u, v, rfl, ?_, hv⟩, ?_, by simp; omega⟩
    · rwa [List.head?_append] at hu
    · rwa [List.getLast?_append, Option.or_assoc]
  complete := by
    rintro before _ w ⟨u, v, rfl, hu, hv⟩ hk
    rw [List.append_assoc]
    refine hm.complete (by rwa [List.head?_append]) (hl.complete hv ?_)
    rwa [List.getLast?_append, Option.or_assoc] at hk

/-- A text of `D` or one of `E`, by either order of choice. -/
theorem choose (fewest : Bool) (hl : Follows D k l) (hm : Follows E k m) :
    Follows (fun before t after => D before t after ∨ E before t after) k
      fun before t => Reach.choose fewest (l before t) (m before t) where
  sound h := by
    rcases eq_some_of_choose h with h | h
    · obtain ⟨u, v, n, ht, hu, hk⟩ := hl.sound h
      exact ⟨u, v, n, ht, .inl hu, hk⟩
    · obtain ⟨u, v, n, ht, hu, hk⟩ := hm.sound h
      exact ⟨u, v, n, ht, .inr hu, hk⟩
  complete h hk := by
    rw [isSome_choose, Bool.or_eq_true]
    exact h.imp (hl.complete · hk) (hm.complete · hk)

/-- One character of `s`. -/
theorem step (s : Char → Bool) (k : Matcher) :
    Follows (fun _ t _ => (∀ c ∈ t, s c = true) ∧ t.length = 1) k (step s k) where
  sound {before t n} h := by
    cases t with
    | nil => cases h
    | cons c t =>
      simp only [Matcher.step, Reach.extend] at h
      split at h
      · obtain ⟨l, hl, rfl⟩ := Option.map_eq_some_iff.1 h
        exact ⟨[c], t, l, rfl, by simpa, hl, by simp; omega⟩
      · cases h
  complete {before u v} h hk := by
    obtain ⟨c, rfl⟩ := List.length_eq_one_iff.1 h.2
    simp_all [Matcher.step, Reach.extend]

/-- A run of exactly `n` characters of `s`. -/
theorem repeat_step (s : Char → Bool) (n : Nat) (k : Matcher) :
    Follows (fun _ t _ => (∀ c ∈ t, s c = true) ∧ t.length = n) k
      (Nat.repeat (Matcher.step s) n k) := by
  induction n with
  | zero =>
    refine (refl k).congr fun _ t _ => ?_
    cases t <;> simp
  | succ n ih =>
    refine ((step s _).trans ih).congr fun _ t _ => ?_
    constructor
    · rintro ⟨u, v, rfl, ⟨hu, hu'⟩, hv, hv'⟩
      refine ⟨fun c hc => ?_, by simp; omega⟩
      exact (List.mem_append.1 hc).elim (hu c) (hv c)
    · rintro ⟨ht, hn⟩
      obtain ⟨c, t, rfl⟩ := List.exists_cons_of_length_eq_add_one hn
      exact ⟨[c], t, rfl, ⟨fun d hd => ht d (by simp_all), rfl⟩,
        fun d hd => ht d (by simp_all), by simpa using hn⟩

/-- A run of characters of `s`. -/
theorem repeated (s : Char → Bool) (fewest : Bool) (k : Matcher) :
    Follows (fun _ t _ => ∀ c ∈ t, s c = true) k (repeated s fewest k) where
  sound {before t} := by
    induction t generalizing before with
    | nil => exact fun h => ⟨[], [], _, rfl, by simp, h, by simp⟩
    | cons c t ih =>
      intro n h
      rcases eq_some_of_choose h with h | h
      · simp only [Reach.extend] at h
        split at h
        next hc =>
          obtain ⟨l, hl, rfl⟩ := Option.map_eq_some_iff.1 h
          obtain ⟨u, v, l, rfl, hu, hk, rfl⟩ := ih hl
          exact ⟨c :: u, v, l, rfl, by simpa [hc] using hu,
            by rwa [getLast?_cons_or], by simp; omega⟩
        · cases h
      · exact ⟨[], c :: t, n, rfl, by simp, h, by simp⟩
  complete {before u v} hu hk := by
    induction u generalizing before with
    | nil =>
      cases v with
      | nil => exact hk
      | cons d v =>
        rw [List.nil_append, Matcher.repeated, isSome_choose, Bool.or_eq_true]
        exact .inr hk
    | cons c u ih =>
      rw [getLast?_cons_or] at hk
      rw [List.cons_append, Matcher.repeated, isSome_choose, Bool.or_eq_true]
      have := ih (fun d hd => hu d (List.mem_cons_of_mem c hd)) hk
      exact .inl (by simpa [Reach.extend, hu c List.mem_cons_self] using this)

/-- A run of at most `n` characters of `s`. -/
theorem atMost (s : Char → Bool) (fewest : Bool) (k : Matcher) (n : Nat) :
    Follows (fun _ t _ => (∀ c ∈ t, s c = true) ∧ t.length ≤ n) k
      (atMost s fewest k n) := by
  induction n with
  | zero =>
    refine (refl k).congr fun _ t _ => ?_
    cases t <;> simp
  | succ n ih =>
    refine (choose fewest ((step s _).trans ih) (refl k)).congr fun _ t _ => ?_
    constructor
    · rintro (⟨u, v, rfl, ⟨hu, hu'⟩, hv, hv'⟩ | rfl)
      · refine ⟨fun c hc => ?_, by simp; omega⟩
        exact (List.mem_append.1 hc).elim (hu c) (hv c)
      · simp
    · rintro ⟨ht, hn⟩
      cases t with
      | nil => exact .inr rfl
      | cons c t =>
        exact .inl ⟨[c], t, rfl, ⟨fun d hd => ht d (by simp_all), rfl⟩,
          fun d hd => ht d (by simp_all), by simpa using hn⟩

/-- A fixed text. -/
theorem text (t : Text) (k : Matcher) :
    Follows (fun _ u _ => u = t) k (t.foldr (fun c k => Matcher.step (· == c) k) k) := by
  induction t with
  | nil => exact refl k
  | cons c t ih =>
    refine ((step (· == c) _).trans ih).congr fun _ u _ => ?_
    constructor
    · rintro ⟨u, v, rfl, ⟨hu, hu'⟩, rfl⟩
      obtain ⟨d, rfl⟩ := List.length_eq_one_iff.1 hu'
      simpa using hu
    · rintro rfl
      exact ⟨[c], t, rfl, by simp, rfl⟩

end Follows

end Matcher

namespace Pattern

open Matcher

/-- A run of a set repeated as often as allowed. -/
theorem follows_run (s : CharSet) (count : Repeat) (k : Matcher) :
    Follows (run s count).Denotes k ((run s count).matcher k) := by
  obtain ⟨least, extra, fewest⟩ := count
  have split {P : Nat → Prop} {t : Text} :
      (∃ u v, t = u ++ v ∧ ((∀ c ∈ u, s.contains c = true) ∧ u.length = least) ∧
        (∀ c ∈ v, s.contains c = true) ∧ P v.length) ↔
      (∀ c ∈ t, c ∈ s) ∧ least ≤ t.length ∧ P (t.length - least) := by
    constructor
    · rintro ⟨u, v, rfl, ⟨hu, rfl⟩, hv, hp⟩
      refine ⟨fun c hc => ?_, by simp, by simpa⟩
      exact (List.mem_append.1 hc).elim (hu c) (hv c)
    · rintro ⟨ht, hl, hp⟩
      refine ⟨t.take least, t.drop least, by simp, ⟨fun c hc => ht c (List.mem_of_mem_take hc),
        by simp; omega⟩, fun c hc => ht c (List.mem_of_mem_drop hc), by simpa⟩
  cases extra with
  | none =>
    refine ((Follows.repeat_step _ least _).trans (Follows.repeated s.contains fewest k)).congr
      fun _ t _ => ?_
    have := split (P := fun _ => True) (t := t)
    simpa [Denotes, Repeat.Allows] using this
  | some n =>
    refine ((Follows.repeat_step _ least _).trans (Follows.atMost s.contains fewest k n)).congr
      fun _ t _ => (split (P := (· ≤ n))).trans ?_
    simp only [Denotes, Repeat.Allows, Option.mem_def, Option.some.injEq, forall_eq']
    exact and_congr_right fun _ => and_congr_right fun _ => by omega

/-- The matcher of a pattern follows its language. -/
theorem follows_denotes (p : Pattern) (k : Matcher) : Follows p.Denotes k (p.matcher k) := by
  induction p generalizing k with
  | text t => exact Follows.text t k
  | boundary =>
    refine ⟨fun {before t n} h => ?_, ?_⟩
    · simp only [matcher] at h
      split at h
      next hb => exact ⟨[], t, n, rfl, ⟨rfl, hb⟩, h, by simp⟩
      · cases h
    · rintro before _ v ⟨rfl, hb⟩ hk
      simpa [matcher, hb] using hk
  | run s count => exact follows_run s count k
  | seq p q ihp ihq => exact (ihp _).trans (ihq k)
  | alt p q ihp ihq => exact Follows.choose false (ihp k) (ihq k)
  | opt p ih => exact Follows.choose false (ih k) (Follows.refl k)
  | group p ih => exact ih k

/-- A match at a place is a text of the pattern that starts there. -/
theorem denotes_of_matchAt {p : Pattern} {before : Option Char} {t : Text} {n : Nat}
    (h : p.matchAt before t = some n) :
    n ≤ t.length ∧ p.Denotes before (t.take n) (t.drop n).head? := by
  obtain ⟨u, v, l, rfl, hu, hl, rfl⟩ := (p.follows_denotes _).sound h
  cases hl
  simpa using hu

/-- There is a match at a place exactly if a text of the pattern starts there. -/
theorem isSome_matchAt_iff {p : Pattern} {before : Option Char} {t : Text} :
    (p.matchAt before t).isSome ↔ ∃ u v, t = u ++ v ∧ p.Denotes before u v.head? := by
  constructor
  · intro h
    obtain ⟨n, hn⟩ := Option.isSome_iff_exists.1 h
    obtain ⟨u, v, l, rfl, hu, -⟩ := (p.follows_denotes _).sound hn
    exact ⟨u, v, rfl, hu⟩
  · rintro ⟨u, v, rfl, hu⟩
    exact (p.follows_denotes _).complete hu rfl

end Pattern

/-- A matcher finds something in a line exactly if it does so at one of its places. -/
theorem Matcher.any_table_iff (m : Matcher) (before : Option Char) (line : Text) :
    (m.table before line).any Option.isSome = true ↔
      ∃ u v, line = u ++ v ∧ (m (u.getLast?.or before) v).isSome := by
  induction line generalizing before with
  | nil =>
    simp only [table, List.any_cons, List.any_nil, Bool.or_false]
    constructor
    · exact fun h => ⟨[], [], rfl, h⟩
    · rintro ⟨u, v, h, hm⟩
      obtain ⟨rfl, rfl⟩ := List.append_eq_nil_iff.1 h.symm
      exact hm
  | cons c line ih =>
    simp only [table, List.any_cons, Bool.or_eq_true, ih]
    constructor
    · rintro (h | ⟨u, v, rfl, h⟩)
      · exact ⟨[], c :: line, rfl, h⟩
      · exact ⟨c :: u, v, rfl, by rwa [getLast?_cons_or]⟩
    · rintro ⟨u, v, h, hm⟩
      cases u with
      | nil =>
        obtain rfl : c :: line = v := h
        exact .inl hm
      | cons d u =>
        obtain ⟨rfl, rfl⟩ := List.cons_eq_cons.1 h
        exact .inr ⟨u, v, rfl, by rwa [getLast?_cons_or] at hm⟩

namespace Pattern

/-- A pattern occurs in a line exactly if a part of the line is one of its texts. -/
theorem occursIn_iff {p : Pattern} {line : Text} :
    p.occursIn line = true ↔
      ∃ a t b, line = a ++ t ++ b ∧ p.Denotes a.getLast? t b.head? := by
  rw [occursIn, reach_eq, Matcher.any_table_iff]
  constructor
  · rintro ⟨a, _, rfl, h⟩
    obtain ⟨t, b, rfl, ht⟩ := isSome_matchAt_iff.1 h
    exact ⟨a, t, b, by simp, by simpa using ht⟩
  · rintro ⟨a, t, b, rfl, ht⟩
    exact ⟨a, t ++ b, by simp, isSome_matchAt_iff.2 ⟨t, b, rfl, by simpa using ht⟩⟩

end Pattern

end SourceLine
