import Mathlib.Data.String.Basic
import SourceLine.Pattern.Occurrence
import SourceLine.Proofs.Pattern.Denotes

/-!
# Cutting the texts of a pattern

A text of a pattern that has a character `c` is cut there into what stands before `c` and what
stands after it. The places of the pattern that admit `c` are finitely many, and for each of them
the two sides are again texts of patterns (`denotes_append_cons_iff`).
-/

namespace SourceLine

open String (utf8Len)

/-- The cuts of a text at a character. -/
def Text.cuts (c : Char) : Text → List (Text × Text)
  | [] => []
  | d :: t =>
    (if d = c then [([], t)] else []) ++ (cuts c t).map fun (u, v) => (d :: u, v)

theorem Text.mem_cuts {c : Char} {t u v : Text} : (u, v) ∈ cuts c t ↔ t = u ++ c :: v := by
  induction t generalizing u with
  | nil => simp [cuts]
  | cons d t ih =>
    simp only [cuts, List.mem_append, List.mem_map, Prod.exists, Prod.mk.injEq]
    cases u with
    | nil =>
      by_cases hd : d = c
      · simp [hd, eq_comm]
      · simp [hd]
    | cons e u =>
      have hhere : (e :: u, v) ∉ if d = c then [([], t)] else [] := by split <;> simp
      simp only [hhere, false_or, List.cons.injEq, List.cons_append]
      constructor
      · rintro ⟨u', v', h, ⟨rfl, rfl⟩, rfl⟩
        exact ⟨rfl, ih.1 h⟩
      · rintro ⟨rfl, h⟩
        exact ⟨u, v, ih.2 h, ⟨rfl, rfl⟩, rfl⟩

/-- The cuts come in the order of their places. -/
theorem Text.pairwise_cuts (c : Char) (t : Text) :
    (cuts c t).Pairwise fun x y => utf8Len x.1 < utf8Len y.1 := by
  induction t with
  | nil => exact .nil
  | cons d t ih =>
    have hd := d.utf8Size_pos
    have htail : ((cuts c t).map fun (u, v) => (d :: u, v)).Pairwise
        fun x y => utf8Len x.1 < utf8Len y.1 := by
      refine List.pairwise_map.2 (ih.imp fun hlt => ?_)
      simp only [String.utf8Len_cons]
      omega
    refine List.pairwise_append.2 ⟨by split <;> simp, htail, ?_⟩
    intro x hx y hy
    obtain ⟨y, -, rfl⟩ := List.mem_map.1 hy
    split at hx
    next =>
      cases List.mem_singleton.1 hx
      simp only [String.utf8Len_cons, String.utf8Len_nil]
      omega
    next => cases hx

namespace Repeat

/-- The numbers of repetitions before and after one that is singled out. -/
def cuts (r : Repeat) : List (Repeat × Repeat) :=
  match r.extra with
  | none =>
    (List.range (r.least - 1)).map (fun n =>
      (⟨n, some 0, r.fewest⟩, ⟨r.least - 1 - n, none, r.fewest⟩)) ++
    [(⟨r.least - 1, none, r.fewest⟩, ⟨0, none, r.fewest⟩)]
  | some k =>
    (List.range (r.least + k)).map fun n =>
      let least := r.least - 1 - n
      (⟨n, some 0, r.fewest⟩, ⟨least, some (r.least + k - 1 - n - least), r.fewest⟩)

theorem allows_cuts_iff {r : Repeat} {i j : Nat} :
    r.Allows (i + 1 + j) ↔ ∃ x ∈ r.cuts, x.1.Allows i ∧ x.2.Allows j := by
  obtain ⟨least, extra, fewest⟩ := r
  cases extra with
  | none =>
    simp only [cuts, Allows, List.mem_append, or_and_right, exists_or, List.mem_map,
      List.mem_range, exists_exists_and_eq_and, List.mem_singleton, exists_eq_left,
      Option.mem_def, Option.some.injEq, forall_eq', reduceCtorEq, false_implies, implies_true,
      and_true, Nat.add_zero, Nat.zero_le]
    constructor
    · intro h
      by_cases hi : least - 1 ≤ i
      · exact .inr hi
      · exact .inl ⟨i, by omega, ⟨Nat.le_refl i, Nat.le_refl i⟩, by omega⟩
    · intro h
      rcases h with ⟨n, hn, ⟨hni, hin⟩, hj⟩ | hi <;> omega
  | some k =>
    simp only [cuts, Allows, List.mem_map, List.mem_range, exists_exists_and_eq_and,
      Option.mem_def, Option.some.injEq, forall_eq', Nat.add_zero]
    constructor
    · intro h
      exact ⟨i, by omega, ⟨Nat.le_refl i, Nat.le_refl i⟩, by omega, by omega⟩
    · intro h
      obtain ⟨n, hn, ⟨hni, hin⟩, hj, hj'⟩ := h
      omega

end Repeat

namespace Pattern

/-- The cuts of a pattern at a character, one for each place that admits it: what stands before
the character, and what stands after it. -/
def cuts (c : Char) : Pattern → List (Pattern × Pattern)
  | .text t => (Text.cuts c t).map fun (u, v) => (.text u, .text v)
  | .boundary => []
  | .run s count =>
    if c ∈ s then count.cuts.map fun (m, n) => (.run s m, .run s n) else []
  | .seq p q =>
    (p.cuts c).map (fun (l, r) => (l, r ++ q)) ++ (q.cuts c).map fun (l, r) => (p ++ l, r)
  | .alt p q => p.cuts c ++ q.cuts c
  | .opt p | .group p => p.cuts c

variable {p q : Pattern} {s : CharSet} {before after : Option Char} {c : Char} {u v : Text}

theorem denotes_run_cuts_iff {count : Repeat} (hc : c ∈ s) :
    (run s count).Denotes before (u ++ c :: v) after ↔ ∃ x ∈ count.cuts,
      (run s x.1).Denotes before u (some c) ∧ (run s x.2).Denotes (some c) v after := by
  have hlength : (u ++ c :: v).length = u.length + 1 + v.length := by simp; omega
  simp only [Denotes, hlength, Repeat.allows_cuts_iff]
  constructor
  · intro h
    obtain ⟨h, x, hx, hl, hr⟩ := h
    exact ⟨x, hx, ⟨fun d hd => h d (by simp [hd]), hl⟩, fun d hd => h d (by simp [hd]), hr⟩
  · intro h
    obtain ⟨x, hx, ⟨hu, hl⟩, hv, hr⟩ := h
    refine ⟨fun d hd => ?_, x, hx, hl, hr⟩
    rcases List.mem_append.1 hd with hd | hd
    · exact hu d hd
    · rcases List.mem_cons.1 hd with rfl | hd
      · exact hc
      · exact hv d hd

/-- The character is in the text of the first pattern, or in that of the second. -/
theorem denotes_append_cuts_iff : (p ++ q).Denotes before (u ++ c :: v) after ↔
    (∃ w w', v = w ++ w' ∧ p.Denotes before (u ++ c :: w) (w'.head?.or after) ∧
      q.Denotes (w.getLast?.or (some c)) w' after) ∨
    ∃ w w', u = w ++ w' ∧ p.Denotes before w (w'.head?.or (some c)) ∧
      q.Denotes (w.getLast?.or before) (w' ++ c :: v) after := by
  have hlast : ∀ w, (u ++ c :: w).getLast?.or before = w.getLast?.or (some c) := by
    intro w
    rw [List.getLast?_append, Option.or_assoc, Matcher.getLast?_cons_or]
  have hhead : ∀ w, (w ++ c :: v).head?.or after = w.head?.or (some c) := by simp
  constructor
  · intro h
    obtain ⟨t, t', h, ht, ht'⟩ := h
    rcases List.append_eq_append_iff.1 h with ⟨w, rfl, hw⟩ | ⟨w, rfl, rfl⟩
    · cases w with
      | nil =>
        subst hw
        exact .inr ⟨u, [], by simp, by simpa using ht, by simpa using ht'⟩
      | cons d w =>
        obtain ⟨rfl, rfl⟩ := List.cons_eq_cons.1 hw
        exact .inl ⟨w, t', rfl, ht, hlast w ▸ ht'⟩
    · exact .inr ⟨t, w, rfl, hhead w ▸ ht, ht'⟩
  · intro h
    rcases h with ⟨w, w', rfl, hw, hw'⟩ | ⟨w, w', rfl, hw, hw'⟩
    · exact ⟨u ++ c :: w, w', by simp, hw, (hlast w).symm ▸ hw'⟩
    · exact ⟨w, w' ++ c :: v, by simp, (hhead w').symm ▸ hw, hw'⟩

/-- The texts of a pattern around a character of it are those of its cuts. -/
theorem denotes_append_cons_iff : p.Denotes before (u ++ c :: v) after ↔
    ∃ x ∈ p.cuts c, x.1.Denotes before u (some c) ∧ x.2.Denotes (some c) v after := by
  induction p generalizing before u v after with
  | text t =>
    simp only [cuts, List.mem_map, exists_exists_and_eq_and, Denotes]
    constructor
    · intro h
      exact ⟨(u, v), Text.mem_cuts.2 h.symm, rfl, rfl⟩
    · intro h
      obtain ⟨⟨_, _⟩, h, rfl, rfl⟩ := h
      exact (Text.mem_cuts.1 h).symm
  | boundary => simp [cuts, Denotes]
  | run s count =>
    by_cases hc : c ∈ s
    · simp only [cuts, if_pos hc, List.mem_map, exists_exists_and_eq_and,
        denotes_run_cuts_iff hc]
    · simp only [cuts, if_neg hc, List.not_mem_nil, false_and, exists_false, iff_false]
      intro h
      exact hc (h.1 c (by simp))
  | seq p q ihp ihq =>
    simp only [cuts, List.mem_append, or_and_right, exists_or, List.mem_map,
      exists_exists_and_eq_and]
    refine denotes_append_cuts_iff.trans (or_congr ?_ ?_)
    · constructor
      · intro h
        obtain ⟨w, w', rfl, hw, hw'⟩ := h
        obtain ⟨x, hx, hl, hr⟩ := ihp.1 hw
        exact ⟨x, hx, hl, w, w', rfl, hr, hw'⟩
      · intro h
        obtain ⟨x, hx, hl, w, w', rfl, hr, hw'⟩ := h
        exact ⟨w, w', rfl, ihp.2 ⟨x, hx, hl, hr⟩, hw'⟩
    · constructor
      · intro h
        obtain ⟨w, w', rfl, hw, hw'⟩ := h
        obtain ⟨x, hx, hl, hr⟩ := ihq.1 hw'
        exact ⟨x, hx, ⟨w, w', rfl, hw, hl⟩, hr⟩
      · intro h
        obtain ⟨x, hx, ⟨w, w', rfl, hw, hl⟩, hr⟩ := h
        exact ⟨w, w', rfl, hw, ihq.2 ⟨x, hx, hl, hr⟩⟩
  | alt p q ihp ihq => simp [cuts, Denotes, ihp, ihq, or_and_right, exists_or]
  | opt p ih => simp [cuts, Denotes, ih]
  | group p ih => simp [cuts, Denotes, ih]

end Pattern

end SourceLine
