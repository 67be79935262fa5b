import SourceLine.Line.Outline
import SourceLine.Proofs.Line.BoundName

/-!
# Blanks around a line

The shapes that tell constructs apart start and end with characters that are no blanks, so each
of them stands in a line exactly where it stands in the indented line. The names do not change
either: of the keywords and the space after them by which names are cut out, none can end in the
blanks after a line, unless the first of these is a space.
-/

namespace SourceLine

open Text

/-- No text of the pattern starts or ends with a blank. -/
structure Pattern.Solid (p : Pattern) : Prop where
  startsIn : p.StartsIn (· ∉ CharSet.blank)
  endsIn : p.EndsIn (· ∉ CharSet.blank)

namespace Pattern.Solid

variable {p : Pattern} {t w w₁ w₂ line : Text}

theorem infix_iff (hp : p.Solid) (ht : p.Language t) (h₁ : Blank w₁) (h₂ : Blank w₂) :
    t <:+: w₁ ++ line ++ w₂ ↔ t <:+: line := by
  obtain ⟨c, hc, hsolid⟩ := head?_of_startsIn hp.startsIn ht
  obtain ⟨d, hd, hsolid'⟩ := getLast?_of_endsIn hp.endsIn ht
  rw [infix_append_iff_of_getLast hd (h₂.notMem hsolid'),
    infix_append_iff_of_head hc (h₁.notMem hsolid)]

theorem starts_append_iff (hp : p.Solid) (hw : Blank w) : p.Starts (t ++ w) ↔ p.Starts t := by
  refine ⟨fun h => ?_, fun h => ?_⟩
  · obtain ⟨u, v, huv, hu⟩ := h
    obtain ⟨c, hc, hsolid⟩ := getLast?_of_endsIn hp.endsIn hu
    obtain ⟨z, hz⟩ := (prefix_append_iff_of_getLast hc (hw.notMem hsolid)).1 ⟨v, huv.symm⟩
    exact ⟨u, z, hz.symm, hu⟩
  · obtain ⟨u, v, rfl, hu⟩ := h
    exact ⟨u, v ++ w, by simp, hu⟩

theorem not_starts_cons (hp : p.Solid) {d : Char} (hd : d ∈ CharSet.blank) :
    ¬ p.Starts (d :: t) := by
  rintro ⟨u, v, huv, hu⟩
  obtain ⟨c, hc, hsolid⟩ := head?_of_startsIn hp.startsIn hu
  have hhead := congrArg List.head? huv
  rw [List.head?_append, hc] at hhead
  obtain rfl : d = c := by simpa using hhead
  exact hsolid hd

theorem occursIn_blanks (hp : p.Solid) (h : p.Settled) (h₁ : Blank w₁) (h₂ : Blank w₂)
    (line : Text) : p.occursIn (w₁ ++ line ++ w₂) = p.occursIn line := by
  rw [Bool.eq_iff_iff, h.occursIn_iff_exists, h.occursIn_iff_exists]
  exact exists_congr fun t => and_congr_left fun ht => hp.infix_iff ht h₁ h₂

theorem before?_blanks (hp : p.Solid) (h : p.Settled) (h₁ : Blank w₁) (h₂ : Blank w₂)
    (line : Text) : p.before? (w₁ ++ line ++ w₂) = (p.before? line).map (w₁ ++ ·) := by
  have hoccurs := hp.occursIn_blanks h h₁ h₂ line
  cases hline : p.occursIn line with
  | false =>
    rw [h.before?_eq_none hline, h.before?_eq_none (hoccurs.trans hline)]
    rfl
  | true =>
    obtain ⟨a, r, rfl, hr⟩ := h.occursIn_iff_starts.1 hline
    obtain ⟨a, r, heq, hr, hno⟩ := Settled.exists_first (a := a) hr
    have hline : w₁ ++ (a ++ r) ++ w₂ = (w₁ ++ a) ++ (r ++ w₂) := by simp
    rw [heq, hline, h.before?_append hr hno, h.before?_append ((hp.starts_append_iff h₂).2 hr)]
    · rfl
    · intro u v huv hv
      rw [← List.append_assoc, hp.starts_append_iff h₂]
      rcases List.append_eq_append_iff.1 huv with ⟨z, rfl, rfl⟩ | ⟨z, rfl, rfl⟩
      · exact hno z v rfl hv
      · cases z with
        | nil => exact hno [] a rfl hv
        | cons d z => exact hp.not_starts_cons (h₁ d (by simp))

end Pattern.Solid

namespace Shape

open Pattern

theorem solid {s : Shape} (hs : s ≠ bindingNoise) : s.pattern.Solid := by
  have hword : ∀ c ∈ CharSet.word, c ∉ CharSet.blank := fun _ => CharSet.not_mem_blank_of_mem_word
  have hletter : ∀ c ∈ CharSet.letter, c ∉ CharSet.blank := fun c hc =>
    hword c (CharSet.mem_word_of_mem_letter hc)
  have hbrace : ∃ c ∈ "\x7b".toList.getLast?, c ∉ CharSet.blank := ⟨'{', rfl, by decide⟩
  have hfunction : ∃ c ∈ "function".toList.head?, c ∉ CharSet.blank := ⟨'f', rfl, by decide⟩
  cases s with
  | classHeader => exact ⟨⟨'c', rfl, by decide⟩, hbrace⟩
  | typedHeader => exact ⟨⟨by decide, hword⟩, hbrace⟩
  | anonymousFunction => exact ⟨hfunction, hbrace⟩
  | boundFunction => exact ⟨⟨by decide, hletter⟩, hbrace⟩
  | control =>
    refine ⟨⟨?_, ?_, ?_, ?_⟩, hbrace⟩
    · exact ⟨'i', rfl, by decide⟩
    · exact ⟨'s', rfl, by decide⟩
    · exact ⟨'w', rfl, by decide⟩
    · exact ⟨'f', rfl, by decide⟩
  | keywordFunction => exact ⟨hfunction, hbrace⟩
  | parameters => exact ⟨⟨'(', rfl, by decide⟩, ')', rfl, by decide⟩
  | bindingNoise => exact absurd rfl hs

end Shape

namespace Line

variable {w₁ w₂ : Text}

section
variable (h₁ : Blank w₁) (h₂ : Blank w₂) (line : Text)
include h₁ h₂

theorem occursIn_blanks {s : Shape} (hs : s ≠ .bindingNoise) :
    s.occursIn (w₁ ++ line ++ w₂) = s.occursIn line :=
  (Shape.solid hs).occursIn_blanks s.settled h₁ h₂ line

theorem beforeParameters?_blanks :
    beforeParameters? (w₁ ++ line ++ w₂) = (beforeParameters? line).map (w₁ ++ ·) :=
  (Shape.solid (by decide)).before?_blanks Shape.parameters.settled h₁ h₂ line

variable (hspace : w₂.head? ≠ some ' ')
include hspace

theorem className_blanks : className (w₁ ++ line ++ w₂) = className line := by
  have hsolid : ∀ c ∈ "class".toList, c ∉ CharSet.blank :=
    CharSet.not_mem_blank_of_all (by decide)
  have hmark : "class ".toList = "class".toList ++ [' '] := rfl
  rw [className, className, hmark, breakOn?_keyword_blanks (by decide) hsolid h₂ hspace h₁]
  cases breakOn? ("class".toList ++ [' ']) line with
  | none => rfl
  | some x => simp [firstWord_append_blank h₂]

theorem nameAfterKeyword_blanks : nameAfterKeyword (w₁ ++ line ++ w₂) = nameAfterKeyword line := by
  have hsolid : ∀ c ∈ "function".toList, c ∉ CharSet.blank :=
    CharSet.not_mem_blank_of_all (by decide)
  have hmark : "function ".toList = "function".toList ++ [' '] := rfl
  rw [nameAfterKeyword, nameAfterKeyword, hmark,
    breakOn?_keyword_blanks (by decide) hsolid h₂ hspace h₁]
  cases breakOn? ("function".toList ++ [' ']) line with
  | none => rfl
  | some x => exact withoutBlanks_upTo_append (by decide) hsolid h₂ hspace _

theorem nameIn?_blanks (place : NamePlace) :
    place.nameIn? (w₁ ++ line ++ w₂) = place.nameIn? line := by
  have hassign : '=' ∉ w₁ := h₁.notMem
  have hbefore := beforeParameters?_blanks h₁ h₂ line
  cases place with
  | afterKeyword =>
    have hkeyword := occursIn_blanks h₁ h₂ line (s := .keywordFunction) (by decide)
    simp only [NamePlace.nameIn?, hkeyword, nameAfterKeyword_blanks h₁ h₂ line hspace]
  | beforeAssignment =>
    simp only [NamePlace.nameIn?, hbefore]
    cases beforeParameters? line with
    | none => rfl
    | some left =>
      have hbreak : breakOn? ['='] (w₁ ++ left) = _ :=
        breakOn?_append_of_head (c := '=') rfl hassign
      simp only [Option.map_some, Option.bind_eq_bind, Option.bind_some, hbreak]
      cases breakOn? ['='] left with
      | none => rfl
      | some x => exact congrArg some (boundName_blank_append h₁ x.1)
  | beforeParameters =>
    simp only [NamePlace.nameIn?, hbefore]
    cases beforeParameters? line with
    | none => rfl
    | some left => simp [hassign, withoutBlanks_blank_append h₁]

theorem placedNameIn?_blanks (place : NamePlace) :
    place.placedNameIn? (w₁ ++ line ++ w₂) = place.placedNameIn? line := by
  rw [NamePlace.placedNameIn?, NamePlace.placedNameIn?, nameIn?_blanks h₁ h₂ line hspace]

theorem placedName?_blanks : placedName? (w₁ ++ line ++ w₂) = placedName? line := by
  simp only [placedName?, placedNameIn?_blanks h₁ h₂ line hspace]

theorem functionName_blanks : functionName (w₁ ++ line ++ w₂) = functionName line := by
  rw [functionName, functionName, placedName?_blanks h₁ h₂ line hspace]

theorem nameOf?_blanks (c : Construct) : nameOf? (w₁ ++ line ++ w₂) c = nameOf? line c := by
  cases c <;>
    simp only [nameOf?, className_blanks h₁ h₂ line hspace, functionName_blanks h₁ h₂ line hspace]

omit hspace in
theorem opens_blanks (controlWins : Bool) (c : Construct) :
    opens controlWins (w₁ ++ line ++ w₂) c = opens controlWins line c := by
  have hshape : ∀ s : Shape, s ≠ .bindingNoise →
      s.occursIn (w₁ ++ line ++ w₂) = s.occursIn line := fun s => occursIn_blanks h₁ h₂ line
  have hclass : opensClass _ = opensClass line := hshape .classHeader (by decide)
  have hheader : hasTypedHeader _ = hasTypedHeader line := hshape .typedHeader (by decide)
  have hanonymous : opensAnonymousFunction _ = opensAnonymousFunction line :=
    hshape .anonymousFunction (by decide)
  have hbinds : bindsFunction _ = bindsFunction line := hshape .boundFunction (by decide)
  have hcontrol : opensControl _ = opensControl line := hshape .control (by decide)
  cases c <;>
    simp only [opens, opensNamedFunction, hclass, hheader, hanonymous, hbinds, hcontrol]

end

/-- A line has the same outline and the same names between blanks, unless a space follows it. -/
theorem outline_blanks (h₁ : Blank w₁) (h₂ : Blank w₂) (hspace : w₂.head? ≠ some ' ')
    (line : Text) (o : Outline.Options) :
    outline (w₁ ++ line ++ w₂) o = outline line o ∧
      className (w₁ ++ line ++ w₂) = className line ∧
      (∀ place : NamePlace,
        place.placedNameIn? (w₁ ++ line ++ w₂) = place.placedNameIn? line) ∧
      placedName? (w₁ ++ line ++ w₂) = placedName? line ∧
      functionName (w₁ ++ line ++ w₂) = functionName line := by
  have hopens : opens o.controlWins (w₁ ++ line ++ w₂) = opens o.controlWins line :=
    funext (opens_blanks h₁ h₂ line o.controlWins)
  have hname : nameOf? (w₁ ++ line ++ w₂) = nameOf? line :=
    funext (nameOf?_blanks h₁ h₂ line hspace)
  refine ⟨?_, className_blanks h₁ h₂ line hspace, placedNameIn?_blanks h₁ h₂ line hspace,
    placedName?_blanks h₁ h₂ line hspace, functionName_blanks h₁ h₂ line hspace⟩
  rw [outline, outline, hopens, hname]

theorem outline_blanks_returns :
    Blank "\u3000\t".toList ∧ Blank "\r\n".toList ∧ "\r\n".toList.head? ≠ some ' ' ∧
      outline "\u3000\tclass Foo \x7b\r\n".toList .disambiguated =
        outline "class Foo \x7b".toList .disambiguated := by
  have h₁ : Blank "\u3000\t".toList := by decide
  have h₂ : Blank "\r\n".toList := by decide
  have hspace : "\r\n".toList.head? ≠ some ' ' := by decide
  refine ⟨h₁, h₂, hspace, ?_⟩
  exact (outline_blanks h₁ h₂ hspace "class Foo \x7b".toList .disambiguated).1

-- A space after the line can make a keyword of the end of its last word.
set_option maxRecDepth 4096 in
example : functionName "function\tf() \x7b function xfunction".toList = "xfunction".toList ∧
    functionName "function\tf() \x7b function xfunction ".toList = "x".toList := by
  decide +kernel

end Line

end SourceLine
