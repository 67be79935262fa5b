import Mathlib.Data.List.Infix
import SourceLine.Proofs.Line.Declared
import SourceLine.Proofs.Line.Embedding
import SourceLine.Proofs.Line.Header
import SourceLine.Proofs.Pattern.Cuts
import SourceLine.Proofs.Text.Blank

/-!
# Control statements with a condition

A control statement with a blank before its condition is not taken for a function. A typed
header would need its parameters, in which no parenthesis stands, right before the last closing
parenthesis of the line: they would be the condition itself, before which there is no name, or
would leave the parentheses of the condition unbalanced. A binding would need a single `=`, and
the signs of a condition are comparisons.
-/

namespace SourceLine

namespace Text

/-- The parentheses of a text are balanced: none is closed that was not opened, and all are
closed at the end. -/
structure Balanced (t : Text) : Prop where
  count_le : ∀ a, a <+: t → a.count ')' ≤ a.count '('
  count_eq : t.count '(' = t.count ')'

/-- Every run of `=` in a text is a comparison: it has two signs or more, or one of `!`, `<`, `>`
stands right before it. -/
def ComparesOnly (t : Text) : Prop :=
  ∀ a r b, t = a ++ r ++ b → r ≠ [] → (∀ c ∈ r, c = '=') → a.getLast? ≠ some '=' →
    b.head? ≠ some '=' → 2 ≤ r.length ∨ a.getLast? ∈ [some '!', some '<', some '>']

variable {t a b : Text}

theorem Balanced.close_mem (h : Balanced (a ++ '(' :: b)) : ')' ∈ b := by
  have hle := h.count_le a (List.prefix_append ..)
  have heq := h.count_eq
  simp only [List.count_append, List.count_cons_self, List.count_cons_of_ne (by decide :
    '(' ≠ ')')] at heq
  apply List.count_pos_iff.1
  omega

/-- The runs to look at are those of a single sign. -/
theorem comparesOnly_iff : ComparesOnly t ↔ ∀ x ∈ cuts '=' t, x.1.getLast? ≠ some '=' →
    x.2.head? ≠ some '=' → x.1.getLast? ∈ [some '!', some '<', some '>'] := by
  constructor
  · rintro h ⟨a, b⟩ hab ha hb
    have ht : t = a ++ ['='] ++ b := by simpa using mem_cuts.1 hab
    exact (h a ['='] b ht (by simp) (by simp) ha hb).resolve_left (by simp)
  · intro h a r b ht hne hr ha hb
    obtain ⟨c, r, rfl⟩ := List.exists_cons_of_ne_nil hne
    obtain rfl := hr c List.mem_cons_self
    cases r with
    | nil => exact .inr (h (a, b) (mem_cuts.2 (by simpa using ht)) ha hb)
    | cons d r => exact .inl (by simp)

/-- A sign that stands alone is a comparison, also where text without signs is around. -/
theorem ComparesOnly.getLast?_mem {left right p q : Text} (h : ComparesOnly t)
    (hleft : '=' ∉ left) (hright : '=' ∉ right)
    (hsplit : p ++ '=' :: q = left ++ (t ++ right)) (hp : p.getLast? ≠ some '=')
    (hq : q.head? ≠ some '=') : p.getLast? ∈ [some '!', some '<', some '>'] := by
  obtain ⟨z, rfl, hpart⟩ := append_cons_eq_append_of_notMem_left hsplit hleft
  obtain ⟨z', rfl, rfl⟩ := append_cons_eq_append_of_notMem_right hpart.symm hright
  have hbefore : ∀ c, z.getLast? = some c → (left ++ z).getLast? = some c := by
    intro c hc
    rw [List.getLast?_append, hc, Option.some_or]
  have hafter : ∀ c, z'.head? = some c → (z' ++ right).head? = some c := by
    intro c hc
    rw [List.head?_append, hc, Option.some_or]
  have hmem := comparesOnly_iff.1 h (z, z') (mem_cuts.2 rfl) (fun hz => hp (hbefore _ hz))
    (fun hz => hq (hafter _ hz))
  simp only [List.mem_cons, List.not_mem_nil, or_false] at hmem ⊢
  exact hmem.imp (hbefore _) (Or.imp (hbefore _) (hbefore _))

instance (t : Text) : Decidable (Balanced t) :=
  decidable_of_iff ((∀ a ∈ t.inits, a.count ')' ≤ a.count '(') ∧ t.count '(' = t.count ')')
    ⟨fun h => ⟨fun a ha => h.1 a ((List.mem_inits a t).2 ha), h.2⟩,
      fun h => ⟨fun a ha => h.count_le a ((List.mem_inits a t).1 ha), h.count_eq⟩⟩

instance (t : Text) : Decidable (ComparesOnly t) :=
  decidable_of_iff _ comparesOnly_iff.symm

end Text

namespace Line

open Shape Text

/-- The condition of a control statement on one line. -/
structure Condition (t : Text) : Prop where
  feed_notMem : '\n' ∉ t
  brace_notMem : '{' ∉ t
  balanced : Balanced t
  comparesOnly : ComparesOnly t

instance (t : Text) : Decidable (Condition t) :=
  decidable_of_iff ('\n' ∉ t ∧ '{' ∉ t ∧ Balanced t ∧ ComparesOnly t)
    ⟨fun h => ⟨h.1, h.2.1, h.2.2.1, h.2.2.2⟩,
      fun h => ⟨h.feed_notMem, h.brace_notMem, h.balanced, h.comparesOnly⟩⟩

/-- The keywords of control statements. -/
def controlKeywords : List Text :=
  ["if", "switch", "while", "for"].map String.toList

/-- A control statement, with `gap` before its condition. -/
def controlHeader (indent keyword gap cond tail : Text) : Text :=
  header (indent ++ keyword ++ gap) cond tail

variable {left indent keyword gap cond tail : Text}

theorem hasTypedHeader_condition (hleft : '{' ∉ left)
    (hlast : ∀ c ∈ left.getLast?, c ∉ CharSet.word) (hcond : Condition cond)
    (htail : Blank tail) : hasTypedHeader (header left cond tail) = false := by
  apply Bool.eq_false_iff.2
  intro h
  obtain ⟨a, t, b, hline, ht⟩ := occursIn_iff_language.1 h
  obtain ⟨n, x, y, ⟨hn, hn', -⟩, ⟨hx, -⟩, ⟨hy, -⟩, rfl⟩ := denotes_typedHeader.1 ht
  have hopen : '(' ∉ x := fun hc => absurd (hx _ hc) (by decide)
  have hclose : ')' ∉ x := fun hc => absurd (hx _ hc) (by decide)
  have hclose' : ')' ∉ y := fun hc => absurd (hy _ hc) (by decide)
  have hbrace : '{' ∉ left ++ '(' :: cond ++ ')' :: tail := by
    have hcond' : '{' ∉ cond := hcond.brace_notMem
    have htail' : '{' ∉ tail := htail.notMem
    simp [hleft, hcond', htail']
  have hname : left ≠ a ++ n := by
    intro heq
    obtain ⟨n, c, rfl⟩ := (List.eq_nil_or_concat n).resolve_left (List.length_pos_iff.1 hn')
    exact hlast c (by simp [heq]) (hn c (by simp))
  -- the brace of the header is the last one, and so is its closing parenthesis
  have hline : (left ++ '(' :: cond ++ ')' :: tail) ++ '{' :: [] =
      (a ++ n ++ '(' :: x ++ ')' :: y) ++ '{' :: b := by simpa [header] using hline
  obtain ⟨hline, -, -⟩ := (List.append_cons_inj_of_notMem hbrace List.not_mem_nil).1 hline
  obtain ⟨hline, -⟩ := append_cons_inj_of_notMem_right hline htail.notMem hclose'
  rcases List.append_eq_append_iff.1 hline with ⟨z, hz, hz'⟩ | ⟨z, hz, hz'⟩
  · cases z with
    | nil => exact hname (by simpa using hz.symm)
    | cons d z =>
      -- the parameters would end the condition after an open parenthesis
      obtain ⟨-, rfl⟩ := List.cons_eq_cons.1 hz'
      exact hclose hcond.balanced.close_mem
  · cases z with
    | nil => exact hname (by simpa using hz)
    | cons d z => simp [(List.cons_eq_cons.1 hz').2] at hopen

/-- The sign of a bound function stands alone: a letter or a blank is before it, and no other
sign follows. -/
theorem exists_assign_boundFunction {t : Text} (ht : Shape.boundFunction.pattern.Language t) :
    ∃ p q, t = p ++ '=' :: q ∧ (∃ c ∈ p.getLast?, c ∈ CharSet.letter ∨ c ∈ CharSet.blank) ∧
      ∃ d ∈ q.head?, d ≠ '=' := by
  obtain ⟨n, w, v, f, u, m, z, x, y, r, e, hn, hn', hw, hv, hf, hu, hm, hz, -, -, -, -, rfl⟩ :=
    language_boundFunction.1 ht
  have hassign : '=' ∉ v ++ f ++ u ++ m ++ z := by
    have hv' : '=' ∉ v := Blank.notMem hv
    have hu' : '=' ∉ u := Blank.notMem hu
    have hm' : '=' ∉ m := fun h => absurd (hm _ h) (by decide)
    have hz' : '=' ∉ z := Blank.notMem hz
    rcases hf with rfl | rfl <;> simp [hv', hu', hm', hz']
  generalize v ++ f ++ u ++ m ++ z = between at hassign
  refine ⟨n ++ w, between ++ '(' :: x ++ ')' :: (y ++ r ++ e) ++ ['{'], by simp, ?_, ?_⟩
  · have hne : n ++ w ≠ [] := by simp [hn]
    refine ⟨(n ++ w).getLast hne, List.getLast?_eq_some_getLast hne, ?_⟩
    exact (List.mem_append.1 (List.getLast_mem hne)).imp (hn' _) (hw _)
  · cases between with
    | nil => exact ⟨'(', rfl, by decide⟩
    | cons d between => exact ⟨d, rfl, fun h => hassign (by simp [h])⟩

theorem bindsFunction_condition (hleft : '=' ∉ left) (hcond : Condition cond)
    (htail : Blank tail) : bindsFunction (header left cond tail) = false := by
  apply Bool.eq_false_iff.2
  intro h
  obtain ⟨a, t, b, hline, ht⟩ := occursIn_iff_language.1 h
  obtain ⟨p, q, rfl, ⟨c, hc, hsolid⟩, d, hd, hsign⟩ := exists_assign_boundFunction ht
  have hleft' : '=' ∉ left ++ ['('] := by simp [hleft]
  have htail' : '=' ∉ ')' :: tail ++ ['{'] := by
    have : '=' ∉ tail := htail.notMem
    simp [this]
  have hline : (a ++ p) ++ '=' :: (q ++ b) =
      (left ++ ['(']) ++ (cond ++ (')' :: tail ++ ['{'])) := by
    simpa [header] using hline.symm
  have hbefore : (a ++ p).getLast? = some c := by rw [List.getLast?_append, hc, Option.some_or]
  have hafter : (q ++ b).head? = some d := by rw [List.head?_append, hd, Option.some_or]
  have hassign : c ≠ '=' := by
    rintro rfl
    exact absurd hsolid (by decide)
  have hcompare := hcond.comparesOnly.getLast?_mem hleft' htail' hline
    (by simpa [hbefore] using hassign) (by simpa [hafter] using hsign)
  simp only [hbefore, List.mem_cons, List.not_mem_nil, or_false, Option.some.injEq] at hcompare
  rcases hcompare with rfl | rfl | rfl <;> exact absurd hsolid (by decide)

/-- Without a named function the options do not matter for the constructs, and only a class has a
name. -/
theorem outline_of_not_opensNamedFunction {line : Text} (h : opensNamedFunction line = false)
    (o : Outline.Options) : (outline line o).constructs = (outline line).constructs ∧
      .namedFunction ∉ (outline line o).constructs ∧
      .boundFunction ∉ (outline line o).constructs ∧
      (opensClass line = false → (outline line o).name = none) := by
  have hbinds : bindsFunction line = false := (opensNamedFunction_eq_false_iff.1 h).2
  have hopens : opens o.controlWins line = opens false line := by
    funext c
    cases c <;> simp [opens, h, hbinds]
  refine ⟨by rw [outline, outline, hopens], ?_, ?_, ?_⟩
  · simp [mem_constructs, opens, h]
  · simp [mem_constructs, opens, hbinds]
  · intro hclass
    have hnone : (declaredFunction line).toOption = none := by
      rw [toOption_declaredFunction, h]
      rfl
    rw [name_outline, hclass, hnone]
    simp

section
variable (hkeyword : keyword ∈ controlKeywords) (hgap : Blank gap) (htail : Blank tail)
  (hcond : Condition cond)
include hkeyword hgap htail hcond

theorem opensControl_controlHeader (indent : Text) :
    opensControl (controlHeader indent keyword gap cond tail) = true := by
  refine occursIn_iff_language.2 ⟨indent, keyword ++ gap ++ '(' :: cond ++ ')' :: tail ++ ['{'], [],
    by simp [controlHeader, header], ?_⟩
  refine (language_opening rfl).2 ⟨keyword ++ gap, cond, tail, ⟨keyword, gap, rfl, ?_, ?_⟩,
    hcond.feed_notMem, htail, rfl⟩
  · simpa [controlKeywords] using hkeyword
  · exact Pattern.denotes_many.2 hgap

variable (hindent : Blank indent) (hne : gap ≠ [])
include hindent hne

theorem opensNamedFunction_controlHeader :
    opensNamedFunction (controlHeader indent keyword gap cond tail) = false := by
  have hletter : ∀ k ∈ controlKeywords, k.all CharSet.letter.contains = true := by decide
  have hmem : ∀ c ∈ keyword, c ∈ CharSet.letter := CharSet.forall_mem_of_all (hletter _ hkeyword)
  have hleft : ∀ c, c ∉ CharSet.letter → c ∉ CharSet.blank → c ∉ indent ++ keyword ++ gap := by
    intro c hc hc'
    have hkeyword' : c ∉ keyword := fun h => hc (hmem c h)
    simp [hindent.notMem hc', hgap.notMem hc', hkeyword']
  have hlast : ∀ c ∈ (indent ++ keyword ++ gap).getLast?, c ∉ CharSet.word := by
    intro c hc hword
    obtain ⟨g, d, rfl⟩ := (List.eq_nil_or_concat gap).resolve_left hne
    obtain rfl : d = c := by simpa using hc
    exact CharSet.not_mem_blank_of_mem_word hword (hgap d (by simp))
  have hheader := hasTypedHeader_condition (hleft '{' (by decide) (by decide)) hlast hcond htail
  have hbinds := bindsFunction_condition (hleft '=' (by decide) (by decide)) hcond htail
  refine opensNamedFunction_eq_false_iff.2 ⟨fun h => ?_, hbinds⟩
  exact absurd h (Bool.eq_false_iff.1 hheader)

end

/-- A control statement with blanks before its condition opens a control statement and no named
function, whatever the options are, and it has no name unless it opens a class. -/
theorem outline_controlHeader (hindent : Blank indent) (hkeyword : keyword ∈ controlKeywords)
    (hgap : Blank gap) (hne : gap ≠ []) (hcond : Condition cond) (htail : Blank tail) :
    opensControl (controlHeader indent keyword gap cond tail) = true ∧
    opensNamedFunction (controlHeader indent keyword gap cond tail) = false ∧
    ∀ o, (outline (controlHeader indent keyword gap cond tail) o).constructs =
        (outline (controlHeader indent keyword gap cond tail)).constructs ∧
      .control ∈ (outline (controlHeader indent keyword gap cond tail) o).constructs ∧
      .namedFunction ∉ (outline (controlHeader indent keyword gap cond tail) o).constructs ∧
      .boundFunction ∉ (outline (controlHeader indent keyword gap cond tail) o).constructs ∧
      (opensClass (controlHeader indent keyword gap cond tail) = false →
        (outline (controlHeader indent keyword gap cond tail) o).name = none) := by
  have hcontrol := opensControl_controlHeader hkeyword hgap htail hcond indent
  have hnamed := opensNamedFunction_controlHeader hkeyword hgap htail hcond hindent hne
  generalize controlHeader indent keyword gap cond tail = line at hcontrol hnamed
  refine ⟨hcontrol, hnamed, fun o => ?_⟩
  obtain ⟨hconstructs, hnot, hnot', hname⟩ := outline_of_not_opensNamedFunction hnamed o
  exact ⟨hconstructs, mem_constructs.2 hcontrol, hnot, hnot', hname⟩

theorem outline_controlHeader_calls :
    Condition "f(a, b) >= c && (d == e)".toList ∧
      opensNamedFunction "  while (f(a, b) >= c && (d == e)) \x7b".toList = false ∧
      Construct.control ∈
        (outline "  while (f(a, b) >= c && (d == e)) \x7b".toList .disambiguated).constructs := by
  have hcond : Condition "f(a, b) >= c && (d == e)".toList := by decide
  have hline : "  while (f(a, b) >= c && (d == e)) \x7b".toList =
      controlHeader "  ".toList "while".toList [' '] "f(a, b) >= c && (d == e)".toList [' '] := by
    decide
  have hindent : Blank "  ".toList := by decide
  have hkeyword : "while".toList ∈ controlKeywords := by decide
  have hspace : Blank [' '] := by decide
  have houtline := outline_controlHeader hindent hkeyword hspace (by simp) hcond hspace
  rw [hline]
  exact ⟨hcond, houtline.2.1, (houtline.2.2 .disambiguated).2.1⟩

end Line

end SourceLine
