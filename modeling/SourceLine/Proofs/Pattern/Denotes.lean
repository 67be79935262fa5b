import SourceLine.Pattern.Language

/-!
# Texts of a pattern

What the constructors of patterns describe, and what is read off the form of a pattern: a
character that none of its texts has (`avoids`) or each of them has (`demands`), that no text is
empty (`consumes`), that none starts with a character (`startsWithout`), with which characters
they start and end (`StartsIn`, `EndsIn`), and that the neighbours of a text do not matter
(`boundaryFree`).
-/

namespace SourceLine.Pattern

variable {p q : Pattern} {s : CharSet} {before after : Option Char} {t : Text}

@[simp] theorem denotes_lit {w : String} :
    (lit w).Denotes before t after ↔ t = w.toList := Iff.rfl

@[simp] theorem denotes_many : (many s).Denotes before t after ↔ ∀ c ∈ t, c ∈ s := by
  simp [many, Denotes, Repeat.Allows]

@[simp] theorem denotes_many1 :
    (many1 s).Denotes before t after ↔ t ≠ [] ∧ ∀ c ∈ t, c ∈ s := by
  simp only [many1, Denotes, Repeat.Allows, Option.mem_def, reduceCtorEq, false_implies,
    implies_true, and_true, Nat.one_le_iff_ne_zero, ne_eq, List.length_eq_zero_iff]
  exact and_comm

@[simp] theorem denotes_between {least most : Nat} (h : least ≤ most) :
    (between least most s).Denotes before t after ↔
      (∀ c ∈ t, c ∈ s) ∧ least ≤ t.length ∧ t.length ≤ most := by
  simp [between, Denotes, Repeat.Allows, Nat.add_sub_cancel' h]

@[simp] theorem denotes_betweenFewest {least most : Nat} (h : least ≤ most) :
    (betweenFewest least most s).Denotes before t after ↔
      (∀ c ∈ t, c ∈ s) ∧ least ≤ t.length ∧ t.length ≤ most := by
  simp [betweenFewest, Denotes, Repeat.Allows, Nat.add_sub_cancel' h]

@[simp] theorem denotes_group :
    (group p).Denotes before t after ↔ p.Denotes before t after := Iff.rfl

@[simp] theorem denotes_alt :
    (alt p q).Denotes before t after ↔ p.Denotes before t after ∨ q.Denotes before t after :=
  Iff.rfl

@[simp] theorem denotes_opt :
    (opt p).Denotes before t after ↔ p.Denotes before t after ∨ t = [] := Iff.rfl

theorem denotes_append :
    (p ++ q).Denotes before t after ↔ ∃ u v, t = u ++ v ∧
      p.Denotes before u (v.head?.or after) ∧ q.Denotes (u.getLast?.or before) v after := Iff.rfl

theorem denotes_assoc (p q r : Pattern) : (p ++ q ++ r).Denotes = (p ++ (q ++ r)).Denotes := by
  funext before t after
  refine propext ⟨fun h => ?_, fun h => ?_⟩
  · obtain ⟨_, w, rfl, ⟨u, v, rfl, hu, hv⟩, hw⟩ := h
    refine ⟨u, v ++ w, by simp, ?_, v, w, rfl, hv, ?_⟩
    · rwa [List.head?_append, Option.or_assoc]
    · rwa [List.getLast?_append, Option.or_assoc] at hw
  · obtain ⟨u, _, rfl, hu, v, w, rfl, hv, hw⟩ := h
    refine ⟨u ++ v, w, by simp, ⟨u, v, rfl, ?_, hv⟩, ?_⟩
    · rwa [List.head?_append, Option.or_assoc] at hu
    · rwa [List.getLast?_append, Option.or_assoc]

theorem denotes_append_congr (p : Pattern) {q r : Pattern} (h : q.Denotes = r.Denotes) :
    (p ++ q).Denotes = (p ++ r).Denotes := by
  funext before t after
  simp only [denotes_append, h]

/-! ## Characters that no text or every text has -/

/-- No part of the pattern admits the character. -/
def avoids (c : Char) : Pattern → Bool
  | .text t => decide (c ∉ t)
  | .boundary => true
  | .run s _ => !s.contains c
  | .seq p q | .alt p q => p.avoids c && q.avoids c
  | .opt p | .group p => p.avoids c

theorem notMem_of_avoids {c : Char} (h : p.avoids c = true) (ht : p.Denotes before t after) :
    c ∉ t := by
  induction p generalizing before t after with
  | text u => rw [ht]; simpa [avoids] using h
  | boundary => rw [ht.1]; simp
  | run s count => exact fun hc => by simp_all [avoids, CharSet.mem_iff.1 (ht.1 c hc)]
  | seq p q ihp ihq =>
    simp only [avoids, Bool.and_eq_true] at h
    obtain ⟨u, v, rfl, hu, hv⟩ := ht
    simp [ihp h.1 hu, ihq h.2 hv]
  | alt p q ihp ihq =>
    simp only [avoids, Bool.and_eq_true] at h
    exact ht.elim (ihp h.1) (ihq h.2)
  | opt p ih => exact ht.elim (ih h) fun ht => by simp [ht]
  | group p ih => exact ih h ht

/-- Every way through the pattern has the character. -/
def demands (c : Char) : Pattern → Bool
  | .text t => decide (c ∈ t)
  | .boundary | .run .. | .opt _ => false
  | .seq p q => p.demands c || q.demands c
  | .alt p q => p.demands c && q.demands c
  | .group p => p.demands c

theorem mem_of_demands {c : Char} (h : p.demands c = true) (ht : p.Denotes before t after) :
    c ∈ t := by
  induction p generalizing before t after with
  | text u => rw [ht]; simpa [demands] using h
  | boundary | run | opt => cases h
  | seq p q ihp ihq =>
    simp only [demands, Bool.or_eq_true] at h
    obtain ⟨u, v, rfl, hu, hv⟩ := ht
    exact List.mem_append.2 (h.imp (ihp · hu) (ihq · hv))
  | alt p q ihp ihq =>
    simp only [demands, Bool.and_eq_true] at h
    exact ht.elim (ihp h.1) (ihq h.2)
  | group p ih => exact ih h ht

/-! ## Empty texts -/

/-- Every way through the pattern takes a character. -/
def consumes : Pattern → Bool
  | .text t => !t.isEmpty
  | .boundary | .opt _ => false
  | .run _ count => decide (0 < count.least)
  | .seq p q => p.consumes || q.consumes
  | .alt p q => p.consumes && q.consumes
  | .group p => p.consumes

theorem ne_nil_of_consumes (h : p.consumes = true) (ht : p.Denotes before t after) : t ≠ [] := by
  induction p generalizing before t after with
  | text u => rw [ht]; simpa [consumes] using h
  | boundary | opt => cases h
  | run s count =>
    have hc : 0 < count.least := by simpa [consumes] using h
    exact List.length_pos_iff.1 (Nat.lt_of_lt_of_le hc ht.2.1)
  | seq p q ihp ihq =>
    simp only [consumes, Bool.or_eq_true] at h
    obtain ⟨u, v, rfl, hu, hv⟩ := ht
    rcases h with h | h
    · simp [ihp h hu]
    · simp [ihq h hv]
  | alt p q ihp ihq =>
    simp only [consumes, Bool.and_eq_true] at h
    exact ht.elim (ihp h.1) (ihq h.2)
  | group p ih => exact ih h ht

/-! ## First and last characters -/

/-- Every way through the pattern starts with a character of `P`. -/
def StartsIn (P : Char → Prop) : Pattern → Prop
  | .text t => ∃ c ∈ t.head?, P c
  | .boundary | .opt _ => False
  | .run s count => 0 < count.least ∧ ∀ c ∈ s, P c
  | .seq p _ | .group p => p.StartsIn P
  | .alt p q => p.StartsIn P ∧ q.StartsIn P

theorem head?_of_startsIn {P : Char → Prop} (h : p.StartsIn P) (ht : p.Denotes before t after) :
    ∃ c ∈ t.head?, P c := by
  induction p generalizing before t after with
  | text u => rwa [show t = u from ht]
  | boundary | opt => cases h
  | run s count =>
    obtain ⟨c, t, rfl⟩ := List.exists_cons_of_length_pos (Nat.lt_of_lt_of_le h.1 ht.2.1)
    exact ⟨c, rfl, h.2 c (ht.1 c List.mem_cons_self)⟩
  | seq p q ihp _ =>
    obtain ⟨u, v, rfl, hu, -⟩ := ht
    obtain ⟨c, hc, hP⟩ := ihp h hu
    exact ⟨c, by rw [List.head?_append, hc]; rfl, hP⟩
  | alt p q ihp ihq => exact ht.elim (ihp h.1) (ihq h.2)
  | group p ih => exact ih h ht

/-- Every way through the pattern starts with a character, and not with this one. -/
def startsWithout (c : Char) : Pattern → Bool
  | .text t => t.head?.any (· != c)
  | .boundary | .opt _ => false
  | .run s count => decide (0 < count.least) && !s.contains c
  | .seq p _ | .group p => p.startsWithout c
  | .alt p q => p.startsWithout c && q.startsWithout c

theorem startsIn_of_startsWithout {c : Char} (h : p.startsWithout c = true) :
    p.StartsIn (· ≠ c) := by
  induction p with
  | text u => simpa [startsWithout, StartsIn, Option.any_eq_true] using h
  | boundary | opt => cases h
  | run s count =>
    simp only [startsWithout, Bool.and_eq_true, decide_eq_true_eq, Bool.not_eq_true'] at h
    refine ⟨h.1, ?_⟩
    rintro d hd rfl
    rw [CharSet.mem_iff, h.2] at hd
    cases hd
  | seq p q ihp _ => exact ihp h
  | alt p q ihp ihq =>
    simp only [startsWithout, Bool.and_eq_true] at h
    exact ⟨ihp h.1, ihq h.2⟩
  | group p ih => exact ih h

theorem head?_of_startsWithout {c : Char} (h : p.startsWithout c = true)
    (ht : p.Denotes before t after) : ∃ d ∈ t.head?, d ≠ c :=
  head?_of_startsIn (startsIn_of_startsWithout h) ht

/-- Every way through the pattern ends with a character of `P`. -/
def EndsIn (P : Char → Prop) : Pattern → Prop
  | .text t => ∃ c ∈ t.getLast?, P c
  | .boundary | .opt _ => False
  | .run s count => 0 < count.least ∧ ∀ c ∈ s, P c
  | .seq _ p | .group p => p.EndsIn P
  | .alt p q => p.EndsIn P ∧ q.EndsIn P

theorem getLast?_of_endsIn {P : Char → Prop} (h : p.EndsIn P) (ht : p.Denotes before t after) :
    ∃ c ∈ t.getLast?, P c := by
  induction p generalizing before t after with
  | text u => rwa [show t = u from ht]
  | boundary | opt => cases h
  | run s count =>
    have hne : t ≠ [] := List.length_pos_iff.1 (Nat.lt_of_lt_of_le h.1 ht.2.1)
    exact ⟨t.getLast hne, List.getLast?_eq_some_getLast hne, h.2 _ (ht.1 _ (List.getLast_mem hne))⟩
  | seq p q _ ihq =>
    obtain ⟨u, v, rfl, -, hv⟩ := ht
    obtain ⟨c, hc, hP⟩ := ihq h hv
    exact ⟨c, by rw [List.getLast?_append, hc]; rfl, hP⟩
  | alt p q ihp ihq => exact ht.elim (ihp h.1) (ihq h.2)
  | group p ih => exact ih h ht

/-! ## Neighbours -/

/-- No part of the pattern is a boundary. -/
def boundaryFree : Pattern → Bool
  | .boundary => false
  | .text _ | .run .. => true
  | .seq p q | .alt p q => p.boundaryFree && q.boundaryFree
  | .opt p | .group p => p.boundaryFree

theorem Denotes.of_boundaryFree (h : p.boundaryFree = true) (ht : p.Denotes before t after)
    (before' after' : Option Char) : p.Denotes before' t after' := by
  induction p generalizing before t after before' after' with
  | text u | run s count => exact ht
  | boundary => cases h
  | seq p q ihp ihq =>
    simp only [boundaryFree, Bool.and_eq_true] at h
    obtain ⟨u, v, rfl, hu, hv⟩ := ht
    exact ⟨u, v, rfl, ihp h.1 hu _ _, ihq h.2 hv _ _⟩
  | alt p q ihp ihq =>
    simp only [boundaryFree, Bool.and_eq_true] at h
    exact ht.imp (ihp h.1 · _ _) (ihq h.2 · _ _)
  | opt p ih => exact ht.imp_left (ih h · _ _)
  | group p ih => exact ih h ht _ _

theorem denotes_iff_language (h : p.boundaryFree = true) :
    p.Denotes before t after ↔ p.Language t :=
  ⟨(·.of_boundaryFree h _ _), (·.of_boundaryFree h _ _)⟩

theorem language_append (hp : p.boundaryFree = true) (hq : q.boundaryFree = true) :
    (p ++ q).Language t ↔ ∃ u v, t = u ++ v ∧ p.Language u ∧ q.Language v := by
  constructor
  · intro h
    obtain ⟨u, v, rfl, hu, hv⟩ := h
    exact ⟨u, v, rfl, hu.of_boundaryFree hp _ _, hv.of_boundaryFree hq _ _⟩
  · intro h
    obtain ⟨u, v, rfl, hu, hv⟩ := h
    exact ⟨u, v, rfl, hu.of_boundaryFree hp _ _, hv.of_boundaryFree hq _ _⟩

end SourceLine.Pattern
