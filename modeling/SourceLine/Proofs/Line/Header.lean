import SourceLine.Proofs.Line.Constructs
import SourceLine.Proofs.Shape.Matches
import SourceLine.Proofs.Text.Blank

/-!
# Headers on one line

A header is some text, parameters in parentheses, and perhaps a type before the brace. Its
parameters and its type have no parenthesis or brace, so each shape can stand in it in one way
only (`header_eq_iff`), and what a header opens is read off its parts.
-/

namespace SourceLine.Line

open Pattern Shape

/-- The header with the text `left` before its parameters. -/
def header (left params type : Text) : Text :=
  left ++ '(' :: params ++ ')' :: type ++ ['{']

/-- Parameters or a type that a typed header may have. -/
structure Typed (t : Text) : Prop where
  mem : ∀ c ∈ t, c ∈ CharSet.typed
  length_le : t.length ≤ 200

/-- A name of any length, made of characters of a set. -/
structure Name (s : CharSet) (t : Text) : Prop where
  ne_nil : t ≠ []
  mem : ∀ c ∈ t, c ∈ s

/-- The type is left out: there are only tabs and spaces in its place. -/
def Untyped (t : Text) : Prop :=
  ∀ c ∈ t, c = '\t' ∨ c = ' '

/-- The text ends with a word character. -/
def WordEnded (t : Text) : Prop :=
  ∃ c ∈ t.getLast?, c ∈ CharSet.word

instance (t : Text) : Decidable (Typed t) :=
  decidable_of_iff (t.all CharSet.typed.contains = true ∧ t.length ≤ 200)
    ⟨fun h => ⟨CharSet.forall_mem_of_all h.1, h.2⟩, fun h => ⟨List.all_eq_true.2 h.mem, h.2⟩⟩

instance (s : CharSet) (t : Text) : Decidable (Name s t) :=
  decidable_of_iff (t ≠ [] ∧ t.all s.contains = true)
    ⟨fun h => ⟨h.1, CharSet.forall_mem_of_all h.2⟩, fun h => ⟨h.1, List.all_eq_true.2 h.mem⟩⟩

instance (t : Text) : Decidable (Untyped t) :=
  decidable_of_iff ((t.all fun c => c == '\t' || c == ' ') = true) (by simp [Untyped])

instance (t : Text) : Decidable (WordEnded t) :=
  decidable_of_iff (t.getLast?.any CharSet.word.contains = true) (Option.any_eq_true ..)

variable {left params type pre name : Text}

theorem Name.notMem {s : CharSet} {t : Text} (h : Name s t) {c : Char}
    (hc : c ∉ s := by decide) : c ∉ t :=
  fun hm => hc (h.mem c hm)

theorem Name.wordEnded_append {t : Text} (h : Name .word t) (a : Text) : WordEnded (a ++ t) := by
  refine ⟨t.getLast h.ne_nil, ?_, h.mem _ (List.getLast_mem h.ne_nil)⟩
  rw [List.getLast?_append, List.getLast?_eq_some_getLast h.ne_nil]
  rfl

theorem Name.toWord {t : Text} (h : Name .letter t) : Name .word t where
  ne_nil := h.ne_nil
  mem c hc := CharSet.mem_word_of_mem_letter (h.mem c hc)

theorem Typed.notMem {t : Text} (h : Typed t) {c : Char} (hc : c ∉ CharSet.typed := by decide) :
    c ∉ t :=
  fun hm => hc (h.mem c hm)

theorem Typed.blank_iff {t : Text} (h : Typed t) : (∀ c ∈ t, c ∈ CharSet.blank) ↔ Untyped t :=
  forall₂_congr fun c hc => CharSet.blank_iff_of_mem_typed (h.mem c hc)

theorem typed_nil : Typed [] := by decide

theorem typed_space : Typed [' '] := by decide

theorem untyped_space : Untyped [' '] := by decide

section
variable (hleft : '(' ∉ left) (hparams : Typed params) (htype : Typed type)
include hleft hparams htype

/-- A header is cut in one way only at a parenthesis, the closing one and the brace. -/
theorem header_eq_iff {a u x w b : Text} :
    header left params type = a ++ (u ++ '(' :: x ++ ')' :: w ++ ['{']) ++ b ↔
      left = a ++ u ∧ params = x ∧ type = w ∧ b = [] := by
  have hopen : '(' ∉ params ++ ')' :: (type ++ ['{']) := by
    simp [hparams.notMem (c := '('), htype.notMem (c := '(')]
  have hclose : ')' ∉ type ++ ['{'] := by simp [htype.notMem (c := ')')]
  have hparams' : ')' ∉ params := hparams.notMem
  have htype' : '{' ∉ type := htype.notMem
  constructor
  · intro h
    have h : left ++ '(' :: (params ++ ')' :: (type ++ '{' :: [])) =
        (a ++ u) ++ '(' :: (x ++ ')' :: (w ++ '{' :: b)) := by simpa [header] using h
    obtain ⟨hl, -, h⟩ := (List.append_cons_inj_of_notMem hleft hopen).1 h
    obtain ⟨hp, -, h⟩ := (List.append_cons_inj_of_notMem hparams' hclose).1 h
    obtain ⟨ht, -, hb⟩ := (List.append_cons_inj_of_notMem htype' List.not_mem_nil).1 h
    exact ⟨hl, hp, ht, hb.symm⟩
  · intro h
    obtain ⟨rfl, rfl, rfl, rfl⟩ := h
    simp [header]

/-- A shape that ends with any parameters and a brace stands in a header if the text before the
parameters ends with what the shape has there, and there is no type. -/
theorem occursIn_header_iff {s : Shape} {p : Pattern}
    (hs : s.pattern = p ++ parenthesized ++ openingBrace) (hp : p.boundaryFree = true) :
    s.occursIn (header left params type) = true ↔
      (∃ a u, left = a ++ u ∧ p.Language u) ∧ Untyped type := by
  rw [occursIn_iff_language, hs, ← htype.blank_iff]
  constructor
  · intro h
    obtain ⟨a, t, b, hline, ht⟩ := h
    obtain ⟨u, x, w, hu, -, hw, rfl⟩ := (language_opening hp).1 ht
    obtain ⟨hl, -, rfl, -⟩ := (header_eq_iff hleft hparams htype).1 hline
    exact ⟨⟨a, u, hl, hu⟩, hw⟩
  · intro h
    obtain ⟨⟨a, u, hl, hu⟩, hw⟩ := h
    have hline := (header_eq_iff (b := []) hleft hparams htype).2 ⟨hl, rfl, rfl, rfl⟩
    exact ⟨a, _, [], hline, (language_opening hp).2
      ⟨u, params, type, hu, hparams.notMem, hw, rfl⟩⟩

end

theorem beforeParameters?_header (hleft : '(' ∉ left) (hparams : '\n' ∉ params) :
    beforeParameters? (header left params type) = some left := by
  have hline : header left params type = left ++ ('(' :: params ++ ')' :: type ++ ['{']) := by
    simp [header]
  rw [beforeParameters?, hline]
  apply parameters.settled.before?_append
  · refine ⟨'(' :: params ++ [')'], type ++ ['{'], by simp, ?_⟩
    exact denotes_parenthesized.2 ⟨params, hparams, rfl⟩
  · intro u v hl hv h
    obtain ⟨t, r, hvr, ht⟩ := h
    obtain ⟨x, -, rfl⟩ := denotes_parenthesized.1 ht
    obtain ⟨d, v, rfl⟩ := List.exists_cons_of_ne_nil hv
    obtain ⟨rfl, -⟩ := List.cons_eq_cons.1 hvr
    simp [hl] at hleft

/-! ## Headers with a name before the parameters -/

section
variable (hname : Name .word name)
include hname

/-- No blank stands between a keyword and the parenthesis if a name does. -/
theorem exists_blank_suffix_iff {kw : Text} :
    (∃ a w, pre ++ name = a ++ (kw ++ w) ∧ ∀ c ∈ w, c ∈ CharSet.blank) ↔
      kw <:+ pre ++ name := by
  constructor
  · intro h
    obtain ⟨a, w, h, hw⟩ := h
    rcases List.eq_nil_or_concat w with rfl | ⟨w, d, rfl⟩
    · exact ⟨a, by simpa using h.symm⟩
    · obtain ⟨n, e, rfl⟩ := (List.eq_nil_or_concat name).resolve_left hname.ne_nil
      have hlast : e = d := by simpa using congrArg List.getLast? h
      have hword := hname.mem e (by simp)
      exact absurd (hw d (by simp)) (hlast ▸ CharSet.not_mem_blank_of_mem_word hword)
  · intro h
    obtain ⟨a, h⟩ := h
    exact ⟨a, [], by simpa using h.symm, by simp⟩

/-- The last characters of the name are enough for a typed header. -/
theorem hasTypedHeader_header (hparams : Typed params) (htype : Typed type) :
    hasTypedHeader (header (pre ++ name) params type) = true := by
  have hlen := List.length_pos_iff.2 hname.ne_nil
  refine occursIn_iff_language.2 ⟨pre ++ name.take (name.length - 200),
    name.drop (name.length - 200) ++ '(' :: params ++ ')' :: type ++ ['{'], [], ?_, ?_⟩
  · simp only [header, List.append_nil, List.append_assoc]
    rw [← List.append_assoc (name.take _), List.take_append_drop]
  · refine denotes_typedHeader.2 ⟨_, params, type, ⟨?_, ?_, ?_⟩, ⟨hparams.mem, hparams.length_le⟩,
      ⟨htype.mem, htype.length_le⟩, rfl⟩
    · intro c hc
      exact hname.mem c (List.mem_of_mem_drop hc)
    · rw [List.length_drop]; omega
    · rw [List.length_drop]; omega

/-- A keyword, any blanks, and the parameters: the keyword ends the name. -/
theorem exists_keyword_iff {p : Pattern} (hp : p.boundaryFree = true) :
    (∃ a u, pre ++ name = a ++ u ∧ (p ++ many .blank).Language u) ↔
      ∃ kw, p.Language kw ∧ kw <:+ pre ++ name := by
  constructor
  · intro h
    obtain ⟨a, u, h, hu⟩ := h
    obtain ⟨kw, w, rfl, hkw, hw⟩ := (language_append hp rfl).1 hu
    exact ⟨kw, hkw, (exists_blank_suffix_iff hname).1 ⟨a, w, h, denotes_many.1 hw⟩⟩
  · intro h
    obtain ⟨kw, hkw, h⟩ := h
    obtain ⟨a, w, h, hw⟩ := (exists_blank_suffix_iff hname).2 h
    exact ⟨a, kw ++ w, h, (language_append hp rfl).2 ⟨kw, w, rfl, hkw, denotes_many.2 hw⟩⟩

theorem paren_notMem_name (hpre : '(' ∉ pre) : '(' ∉ pre ++ name := by
  have hname' : '(' ∉ name := hname.notMem
  simp [hpre, hname']

section
variable (hpre : '(' ∉ pre) (hparams : Typed params) (htype : Typed type)
include hpre hparams htype

theorem opensAnonymousFunction_header :
    opensAnonymousFunction (header (pre ++ name) params type) = true ↔
      "function".toList <:+ pre ++ name ∧ Untyped type := by
  have hleft := paren_notMem_name hname hpre
  rw [opensAnonymousFunction, occursIn_header_iff hleft hparams htype
    (p := lit "function" ++ many .blank) rfl rfl, exists_keyword_iff hname rfl]
  simp [Pattern.Language]

theorem opensControl_header :
    opensControl (header (pre ++ name) params type) = true ↔
      (∃ kw ∈ ["if", "switch", "while", "for"], kw.toList <:+ pre ++ name) ∧
        Untyped type := by
  have hleft := paren_notMem_name hname hpre
  let keyword := alt (lit "if") (alt (lit "switch") (alt (lit "while") (lit "for")))
  rw [opensControl, occursIn_header_iff hleft hparams htype
    (p := keyword ++ many .blank) rfl rfl, exists_keyword_iff hname rfl]
  simp [Pattern.Language, keyword]

theorem occursIn_keywordFunction_header :
    keywordFunction.occursIn (header (pre ++ name) params type) = true ↔
      (∃ w n, w ≠ [] ∧ (∀ c ∈ w, c ∈ CharSet.blank) ∧ n ≠ [] ∧ (∀ c ∈ n, c ∈ CharSet.letter) ∧
        "function".toList ++ w ++ n <:+ pre ++ name) ∧ Untyped type := by
  have hleft := paren_notMem_name hname hpre
  let keyword := lit "function" ++ many1 .blank ++ many1 .letter
  have hkeyword : ∀ t, keyword.Language t ↔ ∃ w n, w ≠ [] ∧ (∀ c ∈ w, c ∈ CharSet.blank) ∧
      n ≠ [] ∧ (∀ c ∈ n, c ∈ CharSet.letter) ∧ t = "function".toList ++ w ++ n := by
    intro t
    constructor
    · intro ht
      obtain ⟨_, n, rfl, ⟨_, w, rfl, rfl, hw⟩, hn⟩ := ht
      obtain ⟨hw, hw'⟩ := denotes_many1.1 hw
      obtain ⟨hn, hn'⟩ := denotes_many1.1 hn
      exact ⟨w, n, hw, hw', hn, hn', rfl⟩
    · intro ht
      obtain ⟨w, n, hw, hw', hn, hn', rfl⟩ := ht
      exact ⟨_, n, rfl, ⟨_, w, rfl, rfl, denotes_many1.2 ⟨hw, hw'⟩⟩, denotes_many1.2 ⟨hn, hn'⟩⟩
  rw [occursIn_header_iff hleft hparams htype (p := keyword ++ many .blank) rfl rfl,
    exists_keyword_iff hname rfl]
  refine and_congr_left fun _ => ?_
  constructor
  · intro h
    obtain ⟨kw, hkw, h⟩ := h
    obtain ⟨w, n, hw, hw', hn, hn', rfl⟩ := (hkeyword kw).1 hkw
    exact ⟨w, n, hw, hw', hn, hn', h⟩
  · intro h
    obtain ⟨w, n, hw, hw', hn, hn', h⟩ := h
    exact ⟨_, (hkeyword _).2 ⟨w, n, hw, hw', hn, hn', rfl⟩, h⟩

end

section
variable (hassign : '=' ∉ pre) (hparams : Typed params) (htype : Typed type)
include hassign hparams htype

theorem bindsFunction_header : bindsFunction (header (pre ++ name) params type) = false := by
  apply occursIn_eq_false (c := '=') (by decide)
  have hname' : '=' ∉ name := hname.notMem
  have hparams' : '=' ∉ params := hparams.notMem
  have htype' : '=' ∉ type := htype.notMem
  simp [header, hassign, hname', hparams', htype']

theorem opensNamedFunction_header : opensNamedFunction (header (pre ++ name) params type) =
    !opensAnonymousFunction (header (pre ++ name) params type) := by
  rw [opensNamedFunction, hasTypedHeader_header hname hparams htype,
    bindsFunction_header hname hassign hparams htype, Bool.true_and, Bool.or_false]

end

end

/-- A typed header needs no more than the last character of a name. -/
theorem hasTypedHeader_header_iff (hleft : '(' ∉ left) (hparams : Typed params)
    (htype : Typed type) :
    hasTypedHeader (header left params type) = true ↔ WordEnded left := by
  constructor
  · intro h
    obtain ⟨a, t, b, hline, ht⟩ := occursIn_iff_language.1 h
    obtain ⟨n, x, y, ⟨hn, hn', -⟩, -, -, rfl⟩ := denotes_typedHeader.1 ht
    obtain ⟨rfl, -⟩ := (header_eq_iff hleft hparams htype).1 hline
    exact Name.wordEnded_append ⟨List.length_pos_iff.1 hn', hn⟩ a
  · intro h
    obtain ⟨c, hc, hword⟩ := h
    obtain ⟨pre, rfl⟩ := List.getLast?_eq_some_iff.1 hc
    exact hasTypedHeader_header ⟨List.cons_ne_nil c [], by simpa using hword⟩ hparams htype

/-! ## Classes in a header -/

/-- The keyword of classes, tabs or spaces, and a letter stand in the text. -/
def MentionsClass (t : Text) : Prop :=
  ∃ w c, w ≠ [] ∧ (∀ d ∈ w, d = '\t' ∨ d = ' ') ∧ c ∈ CharSet.letter ∧
    "class".toList ++ w ++ [c] <:+: t

/-- A keyword, blanks and a letter have no other characters. -/
theorem notMem_start {kw w : Text} {c d : Char} (hkw : ∀ e ∈ kw, e ∈ CharSet.word)
    (hw : ∀ e ∈ w, e ∈ CharSet.blank) (hc : c ∈ CharSet.letter)
    (hblank : d ∉ CharSet.blank := by decide) (hword : d ∉ CharSet.word := by decide) :
    d ∉ kw ++ w ++ [c] := by
  intro h
  rcases List.mem_append.1 h with h | h
  · rcases List.mem_append.1 h with h | h
    · exact hword (hkw d h)
    · exact hblank (hw d h)
  · exact hword (CharSet.mem_word_of_mem_letter (List.mem_singleton.1 h ▸ hc))

theorem word_of_mem_class : ∀ e ∈ "class".toList, e ∈ CharSet.word :=
  CharSet.forall_mem_of_all (by decide)

/-- On a line that ends with a brace, a class needs no more than the start of its name. -/
theorem opensClass_append_brace {t : Text} (ht : '\n' ∉ t) :
    opensClass (t ++ ['{']) = true ↔ ∃ w c, w ≠ [] ∧ (∀ d ∈ w, d ∈ CharSet.blank) ∧
      c ∈ CharSet.letter ∧ "class".toList ++ w ++ [c] <:+: t := by
  rw [opensClass, occursIn_iff_language]
  constructor
  · intro h
    obtain ⟨a, u, b, hline, hu⟩ := h
    obtain ⟨w, n, x, hw, hw', hn, hn', -, rfl⟩ := language_classHeader.1 hu
    obtain ⟨c, n, rfl⟩ := List.exists_cons_of_ne_nil hn
    have hc := hn' c List.mem_cons_self
    have hbrace : '{' ∉ "class".toList ++ w ++ [c] := notMem_start word_of_mem_class hw' hc
    have hinfix : "class".toList ++ w ++ [c] <:+: t ++ '{' :: [] :=
      ⟨a, n ++ x ++ ['{'] ++ b, by rw [hline]; simp⟩
    rcases (Text.infix_append_cons_iff hbrace).1 hinfix with h | h
    · exact ⟨w, c, hw, hw', hc, h⟩
    · simp at h
  · intro h
    obtain ⟨w, c, hw, hw', hc, a, b, rfl⟩ := h
    refine ⟨a, "class".toList ++ w ++ [c] ++ b ++ ['{'], [], by simp, ?_⟩
    refine language_classHeader.2 ⟨w, [c], b, hw, hw', by simp, by simpa, ?_, rfl⟩
    exact fun hb => ht (List.mem_append_right _ hb)

theorem opensClass_header (hname : Name .word name) (hparams : Typed params) (htype : Typed type) :
    opensClass (header name params type) = true ↔ MentionsClass params ∨ MentionsClass type := by
  have hline : header name params type = name ++ '(' :: (params ++ ')' :: type) ++ ['{'] := by
    simp [header]
  have hfeed : '\n' ∉ name ++ '(' :: (params ++ ')' :: type) := by
    have hname' : '\n' ∉ name := hname.notMem
    have hparams' : '\n' ∉ params := hparams.notMem
    have htype' : '\n' ∉ type := htype.notMem
    simp [hname', hparams', htype']
  have hmentions : ∀ {t : Text} {w : Text} {c : Char}, Typed t → w ≠ [] →
      (∀ d ∈ w, d ∈ CharSet.blank) → c ∈ CharSet.letter →
      "class".toList ++ w ++ [c] <:+: t → MentionsClass t := by
    intro t w c ht hw hw' hc h
    refine ⟨w, c, hw, fun d hd => ?_, hc, h⟩
    exact (CharSet.blank_iff_of_mem_typed (ht.mem d (h.subset (by simp [hd])))).1 (hw' d hd)
  rw [hline, opensClass_append_brace hfeed]
  constructor
  · intro h
    obtain ⟨w, c, hw, hw', hc, h⟩ := h
    have hopen := notMem_start (d := '(') word_of_mem_class hw' hc
    have hclose := notMem_start (d := ')') word_of_mem_class hw' hc
    rcases (Text.infix_append_cons_iff hopen).1 h with h | h
    · obtain ⟨d, w, rfl⟩ := List.exists_cons_of_ne_nil hw
      have hword := hname.mem d (h.subset (by simp))
      exact absurd (hw' d (by simp)) (CharSet.not_mem_blank_of_mem_word hword)
    · rcases (Text.infix_append_cons_iff hclose).1 h with h | h
      · exact .inl (hmentions hparams hw hw' hc h)
      · exact .inr (hmentions htype hw hw' hc h)
  · intro h
    have hblank : ∀ d, d = '\t' ∨ d = ' ' → d ∈ CharSet.blank := by
      intro d hd
      rcases hd with rfl | rfl <;> decide
    have hparams' : params <:+: name ++ '(' :: (params ++ ')' :: type) :=
      ⟨name ++ ['('], ')' :: type, by simp⟩
    have htype' : type <:+: name ++ '(' :: (params ++ ')' :: type) :=
      ⟨name ++ '(' :: params ++ [')'], [], by simp⟩
    rcases h with ⟨w, c, hw, hw', hc, h⟩ | ⟨w, c, hw, hw', hc, h⟩
    · exact ⟨w, c, hw, fun d hd => hblank d (hw' d hd), hc, h.trans hparams'⟩
    · exact ⟨w, c, hw, fun d hd => hblank d (hw' d hd), hc, h.trans htype'⟩

/-! ## The name of a function -/

theorem placedName?_header (hleft : '(' ∉ left) (hassign : '=' ∉ left) (hparams : Typed params)
    (hkeyword : keywordFunction.occursIn (header left params type) = false) :
    placedName? (header left params type) =
      some ⟨.beforeParameters, Text.withoutBlanks left⟩ := by
  have hbefore : beforeParameters? (header left params type) = some left :=
    beforeParameters?_header hleft hparams.notMem
  have hbreak : Text.breakOn? ['='] left = none := by
    apply Text.breakOn?_eq_none
    intro h
    exact hassign (h.subset List.mem_cons_self)
  simp [placedName?, NamePlace.all, NamePlace.placedNameIn?, NamePlace.nameIn?, hkeyword, hbefore,
    hbreak, hassign]

open Classical in
/-- What a typed header opens, whatever its name, parameters and type are: the name is the one
before the parameters; a keyword at the end of the name counts only if there is no type; and a
class may be mentioned in the parameters or the type. -/
theorem outline_typedHeader (hname : Name .word name) (hparams : Typed params)
    (htype : Typed type) :
    placedName? (header name params type) = some ⟨.beforeParameters, name⟩ ∧
      functionName (header name params type) = name ∧
      (outline (header name params type)).constructs =
        (if MentionsClass params ∨ MentionsClass type then [.classHeader] else []) ++
        (if "function".toList <:+ name ∧ Untyped type
          then [.anonymousFunction] else [.namedFunction]) ++
        (if (∃ kw ∈ ["if", "switch", "while", "for"], kw.toList <:+ name) ∧
          Untyped type then [.control] else []) := by
  have hkeyword : keywordFunction.occursIn (header name params type) = false := by
    apply Bool.eq_false_iff.2
    intro h
    obtain ⟨⟨w, n, hw, hw', -, -, h⟩, -⟩ :=
      (occursIn_keywordFunction_header hname List.not_mem_nil hparams htype).1 h
    obtain ⟨d, w, rfl⟩ := List.exists_cons_of_ne_nil hw
    have hword := hname.mem d (h.subset (by simp))
    exact CharSet.not_mem_blank_of_mem_word hword (hw' d (by simp))
  have hplaced : placedName? (header name params type) = some ⟨.beforeParameters, name⟩ := by
    rw [placedName?_header hname.notMem hname.notMem hparams hkeyword,
      Text.withoutBlanks_of_word hname.mem]
  refine ⟨hplaced, by rw [functionName, hplaced]; rfl, ?_⟩
  have hanonymous := opensAnonymousFunction_header hname List.not_mem_nil hparams htype
  have hcontrol := opensControl_header hname List.not_mem_nil hparams htype
  have hnamed := opensNamedFunction_header hname List.not_mem_nil hparams htype
  have hbinds := bindsFunction_header hname List.not_mem_nil hparams htype
  simp only [List.nil_append] at hanonymous hcontrol hnamed hbinds
  simp only [constructs_default, hnamed, hbinds, Bool.not_eq_true', ← Bool.not_eq_true,
    opensClass_header hname hparams htype, hanonymous, hcontrol]
  split_ifs <;> simp_all

theorem outline_typedHeader_endif :
    Name .word "endif".toList ∧ Typed "class A".toList ∧ Typed " ".toList ∧
      functionName "endif(class A) \x7b".toList = "endif".toList ∧
      (outline "endif(class A) \x7b".toList).constructs =
        [.classHeader, .namedFunction, .control] := by
  have hname : Name .word "endif".toList := by decide
  have hparams : Typed "class A".toList := by decide
  have htype : Typed " ".toList := by decide
  have hclass : MentionsClass "class A".toList :=
    ⟨[' '], 'A', by simp, by simp, by decide, List.infix_refl _⟩
  have hline : "endif(class A) \x7b".toList =
      header "endif".toList "class A".toList " ".toList := by decide
  obtain ⟨-, hfound, hconstructs⟩ := outline_typedHeader hname hparams htype
  refine ⟨hname, hparams, htype, hline ▸ hfound, ?_⟩
  rw [hline, hconstructs, if_pos (.inl hclass), if_neg (by decide), if_pos (by decide)]
  rfl

end SourceLine.Line
