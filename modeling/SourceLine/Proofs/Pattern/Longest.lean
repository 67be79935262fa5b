import SourceLine.Pattern.Occurrence
import SourceLine.Proofs.Pattern.Denotes

/-!
# Longest matches

Where several texts of a pattern start at one place, the order of choice decides which of
them is the match. A matcher *exhausts* a description of texts if its match ends no earlier
than any text described that the rest accepts, so that the order of choice has no say.

Fixed texts are exhausted whatever follows. There are two reasons for a repetition. Either
what follows rejects the characters that are repeated, and there is but one way to match
(`Exhausts.of_rejects`); or the most are tried first, and what follows ends no earlier if it
starts later (`Exhausts.repeated`, with `Ordered`).
-/

namespace SourceLine

namespace Matcher

/-- Nothing more to match. -/
def done : Matcher := fun _ _ => some 0

/-- `m.Exhausts D k`: where a text of `D` stands and `k` goes on after it, `m` finds a match
that ends no earlier. -/
def Exhausts (D : Option Char → Text → Option Char → Prop) (k m : Matcher) : Prop :=
  ∀ ⦃before u v l⦄, D before u v.head? → k (u.getLast?.or before) v = some l →
    ∃ n, m before (u ++ v) = some n ∧ u.length + l ≤ n

/-- The matcher finds nothing that starts with a character of `P`. -/
def Rejects (P : Char → Prop) (k : Matcher) : Prop :=
  ∀ ⦃before c t⦄, P c → k before (c :: t) = none

/-- A match that starts later ends no earlier. -/
def Ordered (k : Matcher) : Prop :=
  ∀ ⦃before u v m n⦄, u ≠ [] → k before (u ++ v) = some m →
    k (u.getLast?.or before) v = some n → m ≤ u.length + n

variable {D E : Option Char → Text → Option Char → Prop} {k l m : Matcher}
  {P : Char → Prop}

/-- A text is cut in one way only into characters of `P` and a rest that is not rejected. -/
theorem Rejects.cut_unique (hk : Rejects P k) {b b' : Option Char} {u v u' v' : Text} {i j : Nat}
    (h : u ++ v = u' ++ v') (hu : ∀ c ∈ u, P c) (hu' : ∀ c ∈ u', P c)
    (hv : k b v = some i) (hv' : k b' v' = some j) : u = u' ∧ v = v' := by
  rcases List.append_eq_append_iff.1 h with ⟨w, rfl, rfl⟩ | ⟨w, rfl, rfl⟩
  · cases w with
    | nil => simp
    | cons c w => cases (hk (hu' c (by simp))).symm.trans hv
  · cases w with
    | nil => simp
    | cons c w => cases (hk (hu c (by simp))).symm.trans hv'

theorem Ordered.done : Ordered done := by
  intro before u v i j _ hi _
  cases hi
  exact Nat.zero_le _

/-- Matches that start with `c` and have no other `c` cannot overlap. -/
theorem Ordered.of_head {c : Char} (h : Follows D Matcher.done m)
    (hd : ∀ before t after, D before t after → ∃ w, t = c :: w ∧ c ∉ w) : Ordered m := by
  intro before u v i j hu hi hj
  obtain ⟨x, y, _, hxy, hx, ⟨⟩, rfl⟩ := h.sound hi
  obtain ⟨x', y', _, rfl, hx', ⟨⟩, rfl⟩ := h.sound hj
  obtain ⟨w, rfl, hw⟩ := hd _ _ _ hx
  obtain ⟨w', rfl, -⟩ := hd _ _ _ hx'
  rcases List.append_eq_append_iff.1 hxy with ⟨z, hz, hz'⟩ | ⟨z, rfl, -⟩
  · cases z with
    | nil => rw [hz]; simp
    | cons d z =>
      -- the later match would start inside the earlier one
      obtain ⟨e, u, rfl⟩ := List.exists_cons_of_ne_nil hu
      obtain ⟨rfl, rfl⟩ := List.cons_eq_cons.1 hz
      obtain ⟨rfl, -⟩ := List.cons_eq_cons.1 hz'
      simp at hw
  · simp; omega

namespace Exhausts

theorem mono (h : Exhausts D k m) (hd : ∀ before t after, E before t after → D before t after) :
    Exhausts E k m := fun _ _ _ _ hu hl => h (hd _ _ _ hu) hl

theorem refl (k : Matcher) : Exhausts (fun _ t _ => t = []) k k := by
  intro before u v l hu hl
  subst hu
  exact ⟨l, hl, by simp⟩

theorem trans (hm : Exhausts D l m) (hl : Exhausts E k l) :
    Exhausts (fun before t after => ∃ u v, t = u ++ v ∧ D before u (v.head?.or after) ∧
      E (u.getLast?.or before) v after) k m := by
  intro before t w i ht hi
  obtain ⟨u, v, rfl, hu, hv⟩ := ht
  rw [List.getLast?_append, Option.or_assoc] at hi
  obtain ⟨j, hj, hij⟩ := hl hv hi
  obtain ⟨n, hn, hjn⟩ := hm (u := u) (v := v ++ w) (by rwa [List.head?_append]) hj
  exact ⟨n, by rwa [List.append_assoc], by simp; omega⟩

/-- Only one way to match if the texts of `D` are over `P` and the rest rejects `P`. -/
theorem of_rejects (h : Follows D k m) (hd : ∀ before t after, D before t after → ∀ c ∈ t, P c)
    (hk : Rejects P k) : Exhausts D k m := by
  intro before u v i hu hi
  obtain ⟨n, hn⟩ := Option.isSome_iff_exists.1 (h.complete hu (by simp [hi]))
  obtain ⟨u', v', j, he, hu', hj, rfl⟩ := h.sound hn
  obtain ⟨rfl, rfl⟩ := hk.cut_unique he (hd _ _ _ hu) (hd _ _ _ hu') hi hj
  cases hi.symm.trans hj
  exact ⟨_, hn, Nat.le_refl _⟩

/-- Of two descriptions in order of choice, if no place has both. -/
theorem choose (hl : Exhausts D k l) (hm : Exhausts E k m)
    (h : ∀ before t, l before t = none ∨ m before t = none) :
    Exhausts (fun before t after => D before t after ∨ E before t after) k
      fun before t => Reach.choose false (l before t) (m before t) := by
  intro before u v i hu hi
  rcases hu with hu | hu
  · obtain ⟨n, hn, hin⟩ := hl hu hi
    exact ⟨n, by simp [Reach.choose, hn], hin⟩
  · obtain ⟨n, hn, hin⟩ := hm hu hi
    have hnone : l before (u ++ v) = none := by simpa [hn] using h before (u ++ v)
    exact ⟨n, by simp [Reach.choose, hn, hnone], hin⟩

theorem step (s : Char → Bool) (k : Matcher) :
    Exhausts (fun _ t _ => (∀ c ∈ t, s c = true) ∧ t.length = 1) k (step s k) := by
  intro before u v i hu hi
  obtain ⟨hu, hu'⟩ := hu
  obtain ⟨c, rfl⟩ := List.length_eq_one_iff.1 hu'
  have hc : s c = true := hu c (by simp)
  exact ⟨i + 1, by simp_all [Matcher.step, Reach.extend], by simp; omega⟩

theorem repeat_step (s : Char → Bool) (n : Nat) (k : Matcher) :
    Exhausts (fun _ t _ => (∀ c ∈ t, s c = true) ∧ t.length = n) k
      (Nat.repeat (Matcher.step s) n k) := by
  induction n with
  | zero => exact (refl k).mono fun _ t _ h => List.length_eq_zero_iff.1 h.2
  | succ n ih =>
    refine ((step s _).trans ih).mono ?_
    intro _ t _ ht
    obtain ⟨ht, hn⟩ := ht
    obtain ⟨c, t, rfl⟩ := List.exists_cons_of_length_eq_add_one hn
    exact ⟨[c], t, rfl, ⟨fun d hd => ht d (by simp_all), rfl⟩,
      fun d hd => ht d (by simp_all), by simpa using hn⟩

theorem text (t : Text) (k : Matcher) :
    Exhausts (fun _ u _ => u = t) k (t.foldr (fun c k => Matcher.step (· == c) k) k) := by
  induction t with
  | nil => exact refl k
  | cons c t ih =>
    refine ((step (· == c) _).trans ih).mono ?_
    intro _ u _ hu
    subst hu
    exact ⟨[c], t, rfl, by simp, rfl⟩

/-- As many characters of `s` as there are, if the rest ends no earlier from a later place. -/
theorem repeated (s : Char → Bool) (hk : Ordered k) :
    Exhausts (fun _ t _ => ∀ c ∈ t, s c = true) k (repeated s false k) := by
  intro before u v i hu hi
  induction u generalizing before with
  | nil =>
    cases v with
    | nil => exact ⟨i, hi, by simp⟩
    | cons c v =>
      -- a match that goes on with `c` is preferred, and `hk` makes it no shorter
      cases hf : Matcher.step s (Matcher.repeated s false k) before (c :: v) with
      | none =>
        rw [Matcher.step] at hf
        exact ⟨i, by simpa [Matcher.repeated, hf, Reach.choose], by simp⟩
      | some n =>
        have hn : Matcher.repeated s false k before (c :: v) = some n := by
          rw [Matcher.step] at hf
          simp [Matcher.repeated, hf, Reach.choose]
        refine ⟨n, hn, ?_⟩
        obtain ⟨x, y, j, hxy, ⟨w, z, rfl, ⟨-, hw⟩, -⟩, hj, rfl⟩ :=
          ((Follows.step s _).trans (Follows.repeated s false k)).sound hf
        have hne : w ++ z ≠ [] := by
          intro h
          rw [(List.append_eq_nil_iff.1 h).1] at hw
          cases hw
        rw [hxy] at hi
        simpa using hk hne hi hj
  | cons c u ih =>
    rw [getLast?_cons_or] at hi
    obtain ⟨n, hn, hin⟩ := ih (fun d hd => hu d (List.mem_cons_of_mem c hd)) hi
    refine ⟨n + 1, ?_, by simp; omega⟩
    simp [Matcher.repeated, Reach.extend, Reach.choose, hu c List.mem_cons_self, hn]

end Exhausts

theorem Ordered.repeated (s : Char → Bool) (hk : Ordered k) : Ordered (repeated s false k) := by
  intro before u v i j hu hi hj
  obtain ⟨x, y, i, hxy, hx, hy, rfl⟩ := (Follows.repeated s false k).sound hi
  rcases List.append_eq_append_iff.1 hxy with ⟨w, rfl, rfl⟩ | ⟨w, rfl, rfl⟩
  · -- the later match starts inside the run, whose rest it could take as well
    rw [List.getLast?_append, Option.or_assoc] at hy
    obtain ⟨n, hn, hin⟩ := Exhausts.repeated s hk (u := w)
      (fun c hc => hx c (List.mem_append_right u hc)) hy
    cases hn.symm.trans hj
    simp only [List.length_append]
    omega
  · obtain ⟨x', y', j, rfl, -, hy', rfl⟩ := (Follows.repeated s false k).sound hj
    rw [List.getLast?_append, Option.or_assoc, ← Option.or_assoc, ← List.getLast?_append] at hy'
    by_cases hne : w ++ x' = []
    · simp_all
    · have := hk hne (by rwa [List.append_assoc]) hy'
      simp only [List.length_append] at this ⊢
      omega

end Matcher

namespace Pattern

open Matcher

variable {p q : Pattern} {s : CharSet} {k : Matcher}

theorem rejects_text (c : Char) (t : Text) (k : Matcher) :
    Rejects (· ≠ c) ((text (c :: t)).matcher k) := by
  intro before d u hd
  simp [matcher, Matcher.step, Reach.extend, hd]

theorem rejects_many1 {P : Char → Prop} (h : ∀ c ∈ s, ¬ P c) (k : Matcher) :
    Rejects P ((many1 s).matcher k) := by
  intro before c t hc
  have hs : s.contains c = false := Bool.eq_false_iff.2 fun hs => h c hs hc
  simp [many1, matcher, Nat.repeat, Matcher.step, Reach.extend, hs]

theorem exhausts_text (t : Text) (k : Matcher) :
    Exhausts (text t).Denotes k ((text t).matcher k) := Exhausts.text t k

theorem exhausts_seq (hp : Exhausts p.Denotes (q.matcher k) (p.matcher (q.matcher k)))
    (hq : Exhausts q.Denotes k (q.matcher k)) :
    Exhausts (p ++ q).Denotes k ((p ++ q).matcher k) := hp.trans hq

/-- The pattern stops at the first `c`, which must follow. -/
theorem exhausts_upTo (c : Char) (h : p.avoids c = true) (k : Matcher) :
    Exhausts p.Denotes ((text [c]).matcher k) (p.matcher ((text [c]).matcher k)) := by
  apply Exhausts.of_rejects (p.follows_denotes _) _ (rejects_text c [] k)
  intro before t after ht d hd he
  exact notMem_of_avoids h ht (he ▸ hd)

theorem exhausts_many (hk : Ordered k) : Exhausts (many s).Denotes k ((many s).matcher k) :=
  (Exhausts.repeated s.contains hk).mono fun _ _ _ ht => ht.1

theorem exhausts_many1 (hk : Ordered k) : Exhausts (many1 s).Denotes k ((many1 s).matcher k) := by
  refine ((Exhausts.repeat_step s.contains 1 _).trans (Exhausts.repeated s.contains hk)).mono ?_
  intro _ t _ ht
  obtain ⟨hne, ht⟩ := denotes_many1.1 ht
  obtain ⟨c, t, rfl⟩ := List.exists_cons_of_ne_nil hne
  exact ⟨[c], t, rfl, ⟨fun d hd => ht d (by simp_all), rfl⟩, fun d hd => ht d (by simp_all)⟩

/-- A fixed text, or else a pattern that does not start as it does. -/
theorem exhausts_alt {c : Char} {t : Text} (ht : t.head? = some c) (h : q.startsWithout c = true)
    (hq : Exhausts q.Denotes k (q.matcher k)) :
    Exhausts (alt (text t) q).Denotes k ((alt (text t) q).matcher k) := by
  refine Exhausts.choose (exhausts_text t k) hq fun before line => ?_
  cases hi : (text t).matcher k before line with
  | none => exact .inl rfl
  | some i =>
    cases hj : q.matcher k before line with
    | none => exact .inr rfl
    | some j =>
      obtain ⟨u, w, _, rfl, hu, -⟩ := ((text t).follows_denotes k).sound hi
      obtain ⟨v, z, _, he, hv, -⟩ := (q.follows_denotes k).sound hj
      obtain ⟨d, hd, hne⟩ := head?_of_startsWithout h hv
      have hhead := congrArg List.head? he
      rw [List.head?_append, List.head?_append, show u = t from hu, ht, hd] at hhead
      exact absurd (Option.some.inj hhead).symm hne

end Pattern

end SourceLine
