import Mathlib
import SourceLine.Construct.Encoding
import SourceLine.Construct.Spelling

/-!
# Spellings and ASCII

A spelling is compared in lowercase, by the mapping for all of Unicode. Outside ASCII this mapping
leads into ASCII in two places only: the Kelvin sign becomes `k`, and the dotted capital I becomes
`i` with a combining dot (`lowercaseChar_outside`); a sigma stays outside, whatever its context. No
name of a construct has a `k`, and none has a combining dot, so a construct is spelled in ASCII
throughout, and there the mapping is the one of ASCII.

The names, the tags in documents and the spellings are three tables. That they agree is
`names_agree`.
-/

namespace SourceLine

namespace Text

/-- A text of ASCII characters. -/
def Ascii (t : Text) : Prop :=
  ∀ c ∈ t, c.toNat < 0x80

instance (t : Text) : Decidable (Ascii t) :=
  decidable_of_iff (t.all (·.toNat < 0x80) = true) (by simp [Ascii])

variable {c : Char} {t before : Text}

/-- The first run of capitals is that of ASCII, and the others lie outside ASCII. -/
theorem exists_caseRuns_eq_cons :
    ∃ runs, caseRuns = ⟨0x41, 0x5A, 1, 0x61⟩ :: runs ∧ ∀ run ∈ runs, 0x80 ≤ run.first :=
  ⟨_, rfl, by decide +kernel⟩

theorem lowercaseChar_of_ascii (h : c.toNat < 0x80) : lowercaseChar c = [c.toLower] := by
  obtain ⟨runs, hruns, houtside⟩ := exists_caseRuns_eq_cons
  have hdotted : c.toNat ≠ 0x130 := by omega
  have hupper_iff : c.isUpper = true ↔ 0x41 ≤ c.toNat ∧ c.toNat ≤ 0x5A := by
    simp [Char.isUpper, UInt32.le_iff_toNat_le]
  rw [lowercaseChar, if_neg hdotted, hruns, List.find?_cons]
  by_cases hupper : 0x41 ≤ c.toNat ∧ c.toNat ≤ 0x5A
  · have hcovers : CaseRun.covers ⟨0x41, 0x5A, 1, 0x61⟩ c.toNat = true := by
      simp [CaseRun.covers, hupper, Nat.mod_one]
    have hlower : 0x61 + (c.toNat - 0x41) = c.toNat + 0x20 := by omega
    simp only [hcovers, hlower, Char.toLower_eq_of_isUpper (hupper_iff.2 hupper)]
  · have hcovers : CaseRun.covers ⟨0x41, 0x5A, 1, 0x61⟩ c.toNat = false := by
      simp only [CaseRun.covers, ← Bool.decide_and, hupper, decide_false, Bool.false_and]
    have hnone : runs.find? (·.covers c.toNat) = none := by
      apply List.find?_eq_none.2
      intro run hrun hcovers
      have hfirst := houtside run hrun
      simp only [CaseRun.covers, Bool.and_eq_true, decide_eq_true_eq] at hcovers
      omega
    have hkept := Char.toLower_eq_of_not_isUpper (hupper ∘ hupper_iff.1)
    simp only [hcovers, hnone, hkept]

theorem lowercaseFrom_of_ascii (h : Ascii t) : lowercaseFrom before t = t.map Char.toLower := by
  induction t generalizing before with
  | nil => rfl
  | cons c t ih =>
    obtain ⟨hc, ht⟩ := List.forall_mem_cons.1 h
    have hsigma : c ≠ '\u03A3' := by
      rintro rfl
      exact absurd hc (by decide)
    rw [lowercaseFrom, lowercaseAt, if_neg fun hfinal => hsigma hfinal.1, lowercaseChar_of_ascii hc,
      ih ht, List.map_cons, List.singleton_append]

/-- A run of capitals lies in ASCII, is the Kelvin sign, or has its lowercase outside ASCII. -/
theorem caseRuns_outside : ∀ run ∈ caseRuns, run.last < 0x80 ∨
    (run.first = 0x212A ∧ run.last = 0x212A ∧ run.lower = 0x6B) ∨
    (0x80 ≤ run.lower ∧ (run.lower + (run.last - run.first) < 0xD800 ∨
      0xDFFF < run.lower ∧ run.lower + (run.last - run.first) < 0x110000)) := by
  decide +kernel

/-- The lowercase of a character outside ASCII. -/
theorem lowercaseChar_outside (h : 0x80 ≤ c.toNat) :
    c = '\u212A' ∧ lowercaseChar c = ['k'] ∨
      c = '\u0130' ∧ lowercaseChar c = ['i', '\u0307'] ∨
      ∃ d, lowercaseChar c = [d] ∧ 0x80 ≤ d.toNat := by
  rw [lowercaseChar]
  split
  next hdotted => exact .inr (.inl ⟨Char.toNat_inj.1 hdotted, rfl⟩)
  next =>
    split
    next run hrun =>
      have hcovers := List.find?_some hrun
      simp only [CaseRun.covers, Bool.and_eq_true, decide_eq_true_eq] at hcovers
      obtain ⟨⟨hfirst, hlast⟩, -⟩ := hcovers
      have hmem := List.mem_of_find?_eq_some hrun
      rcases caseRuns_outside run hmem with hlow | ⟨hfirst', hlast', hlower⟩ | ⟨hge, hvalid⟩
      · omega
      · have hc : c.toNat = 0x212A := by omega
        refine .inl ⟨Char.toNat_inj.1 hc, ?_⟩
        rw [hlower, hc, hfirst']
      · refine .inr (.inr ⟨_, rfl, ?_⟩)
        have hchar : (run.lower + (c.toNat - run.first)).isValidChar := by
          simp only [Nat.isValidChar]
          omega
        rw [Char.toNat_ofNat, if_pos hchar]
        omega
    next => exact .inr (.inr ⟨c, rfl, h⟩)

theorem exists_mem_lowercaseAt (h : 0x80 ≤ c.toNat) (before after : Text) :
    ∃ d ∈ lowercaseAt before c after, 0x80 ≤ d.toNat ∨ d = 'k' := by
  rw [lowercaseAt]
  split
  next => exact ⟨'\u03C2', List.mem_singleton_self _, .inl (by decide)⟩
  next =>
    rcases lowercaseChar_outside h with ⟨-, hlower⟩ | ⟨-, hlower⟩ | ⟨d, hlower, hd⟩
    · exact ⟨'k', by simp [hlower], .inr rfl⟩
    · exact ⟨'\u0307', by simp [hlower], .inl (by decide)⟩
    · exact ⟨d, by simp [hlower], .inl hd⟩

theorem exists_mem_lowercaseFrom (hc : c ∈ t) (h : 0x80 ≤ c.toNat) :
    ∃ d ∈ lowercaseFrom before t, 0x80 ≤ d.toNat ∨ d = 'k' := by
  induction t generalizing before with
  | nil => cases hc
  | cons e t ih =>
    rw [lowercaseFrom]
    rcases List.mem_cons.1 hc with rfl | hc
    · obtain ⟨d, hd, houtside⟩ := exists_mem_lowercaseAt h before t
      exact ⟨d, List.mem_append_left _ hd, houtside⟩
    · obtain ⟨d, hd, houtside⟩ := ih hc
      exact ⟨d, List.mem_append_right _ hd, houtside⟩

/-- A text whose lowercase is ASCII is ASCII itself, unless it has a Kelvin sign. -/
theorem ascii_of_lowercase (h : ∀ d ∈ lowercase t, d.toNat < 0x80 ∧ d ≠ 'k') : Ascii t := by
  intro c hc
  apply Nat.lt_of_not_le
  intro hge
  obtain ⟨d, hd, houtside⟩ := exists_mem_lowercaseFrom hc hge
  obtain ⟨hascii, hk⟩ := h d hd
  rcases houtside with hge | rfl
  · omega
  · exact hk rfl

end Text

namespace Construct

open Text

variable {c c' : Construct} {t u m : Text}

/-! ## Names -/

theorem mem_all (c : Construct) : c ∈ all := by
  cases c <;> decide

/-- The tags and the spellings agree with the names. -/
theorem names_agree (c : Construct) : c.tag = c.name ∧ spellings.lookup c.name = some c := by
  have hall : ∀ c ∈ all, c.tag = c.name ∧ spellings.lookup c.name = some c := by decide
  exact hall c c.mem_all

theorem name_inj (h : c.name = c'.name) : c = c' := by
  have hlookup := (names_agree c).2
  rw [h, (names_agree c').2] at hlookup
  exact (Option.some.inj hlookup).symm

theorem ofTag?_eq_some_iff : ofTag? t = some c ↔ t = c.name := by
  constructor
  · intro h
    have htag := List.find?_some h
    rw [← eq_of_beq htag, (names_agree c).1]
  · rintro rfl
    have hsome : (ofTag? c.name).isSome :=
      List.find?_isSome.2 ⟨c, c.mem_all, beq_iff_eq.2 (names_agree c).1⟩
    obtain ⟨c', hc'⟩ := Option.isSome_iff_exists.1 hsome
    have htag := List.find?_some hc'
    rw [hc', name_inj ((names_agree c').1.symm.trans (eq_of_beq htag))]

/-! ## Spellings -/

/-- The text is the name of the construct or a short word for it. -/
def Names (t : Text) (c : Construct) : Prop :=
  t = c.name ∨ t = "class".toList ∧ c = classHeader ∨ t = "control".toList ∧ c = control

/-- A text in ASCII lowercase, with underscores for hyphens. -/
def folded (t : Text) : Text :=
  (t.map Char.toLower).map fun c => if c = '-' then '_' else c

/-- The text is ASCII and names the construct in any case, with hyphens for underscores. -/
def Spells (t : Text) (c : Construct) : Prop :=
  Ascii t ∧ Names (folded t) c

theorem lookup_spellings_iff : spellings.lookup u = some c ↔ Names u c := by
  constructor
  · intro h
    obtain ⟨l, l', hl, -⟩ := List.lookup_eq_some_iff.1 h
    have hall : ∀ p ∈ spellings, p.1 = p.2.name ∨ p.1 = "class".toList ∧ p.2 = classHeader ∨
        p.1 = "control".toList ∧ p.2 = control := by decide
    exact hall (u, c) (by simp [hl])
  · rintro (rfl | ⟨rfl, rfl⟩ | ⟨rfl, rfl⟩)
    · exact (names_agree c).2
    · decide
    · decide

theorem Names.plain (h : Names u c) : ∀ d ∈ u, d.toNat < 0x80 ∧ d ≠ 'k' := by
  have hall : ∀ u ∈ "class".toList :: "control".toList :: all.map name,
      u.all (fun d => d.toNat < 0x80 && d != 'k') = true := by decide
  have hname : c.name ∈ all.map name := List.mem_map_of_mem c.mem_all
  have hmem : u ∈ "class".toList :: "control".toList :: all.map name := by
    rcases h with rfl | ⟨rfl, -⟩ | ⟨rfl, -⟩ <;> simp [hname]
  intro d hd
  simpa using List.all_eq_true.1 (hall u hmem) d hd

theorem ascii_of_names (h : Names (normalized t) c) : Ascii t := by
  apply ascii_of_lowercase
  intro d hd
  by_cases hhyphen : d = '-'
  · rw [hhyphen]
    decide
  · exact h.plain d (List.mem_map.2 ⟨d, hd, if_neg hhyphen⟩)

theorem ofSpelling?_iff_spells : ofSpelling? t = some c ↔ Spells t c := by
  have hfolded : Ascii t → normalized t = folded t := fun h => by
    rw [normalized, lowercase, lowercaseFrom_of_ascii h, folded]
  rw [ofSpelling?, lookup_spellings_iff, Spells]
  constructor
  · intro h
    have hascii := ascii_of_names h
    exact ⟨hascii, hfolded hascii ▸ h⟩
  · intro h
    obtain ⟨hascii, h⟩ := h
    exact (hfolded hascii).symm ▸ h

theorem read_eq_ok_iff : read t = .ok c ↔ ofSpelling? t = some c := by
  rw [read]
  cases ofSpelling? t <;> simp

theorem read_eq_error_iff : read t = .error m ↔ ofSpelling? t = none ∧ m = unknownSpelling t := by
  rw [read]
  cases ofSpelling? t with
  | none => simp only [Except.error.injEq, true_and, eq_comm]
  | some c => simp

theorem decode_string_eq_ok_iff : decode (.string t) = .ok c ↔ t = c.name := by
  rw [decode, ← ofTag?_eq_some_iff]
  cases ofTag? t <;> simp

theorem spells_name (c : Construct) : Spells c.name c := by
  have hall : ∀ c ∈ all, Ascii c.name ∧ folded c.name = c.name := by decide
  obtain ⟨hascii, hfolded⟩ := hall c c.mem_all
  exact ⟨hascii, .inl hfolded⟩

/-- A text is read as a construct exactly if it spells one in ASCII, and is refused with a message
that ends with the text otherwise. A string encodes a construct exactly if it is its name, which is
one of the spellings. -/
theorem read_spellings (t : Text) :
    (∀ c, read t = .ok c ↔ Spells t c) ∧
      (∀ m, read t = .error m ↔
        (∀ c, ¬ Spells t c) ∧ m = "unknown construct kind: ".toList ++ t) ∧
      (∀ c, decode (.string t) = .ok c ↔ t = c.name) ∧
      (∀ c, decode (.string t) = .ok c → read t = .ok c) := by
  have hread : ∀ c, read t = .ok c ↔ Spells t c := fun c =>
    read_eq_ok_iff.trans ofSpelling?_iff_spells
  refine ⟨hread, fun m => ?_, fun c => decode_string_eq_ok_iff, fun c h => ?_⟩
  · have hnone : ofSpelling? t = none ↔ ∀ c, ¬ Spells t c := by
      rw [Option.eq_none_iff_forall_ne_some]
      exact forall_congr' fun c => not_congr ofSpelling?_iff_spells
    exact read_eq_error_iff.trans (and_congr_left' hnone)
  · rw [decode_string_eq_ok_iff] at h
    rw [hread, h]
    exact spells_name c

theorem read_spellings_hyphens :
    Spells "Built-In-CONTROL-Statement".toList control ∧
      read "Built-In-CONTROL-Statement".toList = .ok control ∧
      decode (.string "none".toList) = .ok nothing ∧ read "none".toList = .ok nothing := by
  have hspells : Spells "Built-In-CONTROL-Statement".toList control :=
    ⟨by decide, .inl (by decide)⟩
  obtain ⟨hread, -⟩ := read_spellings "Built-In-CONTROL-Statement".toList
  obtain ⟨-, -, hdecode, haccepted⟩ := read_spellings "none".toList
  have hnone : decode (.string "none".toList) = .ok nothing := (hdecode nothing).2 rfl
  exact ⟨hspells, (hread control).2 hspells, hnone, haccepted nothing hnone⟩

end Construct

end SourceLine
