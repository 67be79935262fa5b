import SourceLine.Error
import SourceLine.Proofs.Construct.Spelling
import SourceLine.Proofs.Pattern.CharSet
import SourceLine.Proofs.Text.Quoted

/-!
# Messages of errors

The message of an error about a line tells the error: the first letter tells what went wrong, the
name of the construct ends where a character comes that no name has, and the rest is the quoted
line, which tells the line. The line is all that is not fixed, so the message has no control
characters.
-/

namespace SourceLine.Error

open Text

variable {e e' : Error} {c c' : Construct} {l l' : Text}

theorem word_of_mem_name (c : Construct) : ∀ d ∈ c.name, d ∈ CharSet.word := by
  have hall : ∀ c ∈ Construct.all, c.name.all CharSet.word.contains = true := by decide
  exact CharSet.forall_mem_of_all (hall c c.mem_all)

/-- A message of fixed texts around the construct and the line tells both. -/
theorem framed_inj (start : Text) (d : Char) (sep : Text) (hd : d ∉ CharSet.word)
    (h : start ++ c.name ++ d :: sep ++ quoted l = start ++ c'.name ++ d :: sep ++ quoted l') :
    c = c' ∧ l = l' := by
  have hname : ∀ c : Construct, d ∉ c.name := fun c hmem => hd (word_of_mem_name c d hmem)
  simp only [List.append_assoc, List.cons_append, List.append_cancel_left_eq] at h
  obtain ⟨hc, hrest⟩ := append_cons_inj_of_notMem_left h (hname c) (hname c')
  exact ⟨Construct.name_inj hc, quoted_inj (List.append_cancel_left hrest)⟩

/-- The first letter of a message. -/
theorem head?_message (e : Error) : e.message.head? = some (match e with
    | unusablePattern .. => 'f'
    | notOpened .. => 'l'
    | nameless .. => 'n') := by
  cases e <;> rfl

theorem message_inj (he : e.wanted?.isSome) (h : e'.message = e.message) : e' = e := by
  have hhead := congrArg List.head? h
  rw [head?_message, head?_message] at hhead
  cases e with
  | unusablePattern => cases he
  | notOpened c l =>
    cases e' with
    | notOpened c' l' =>
      obtain ⟨rfl, rfl⟩ := framed_inj _ ':' [' '] (by decide) h
      rfl
    | unusablePattern | nameless => simp at hhead
  | nameless c l =>
    cases e' with
    | nameless c' l' =>
      obtain ⟨rfl, rfl⟩ := framed_inj _ ' ' "line: ".toList (by decide) h
      rfl
    | unusablePattern | notOpened => simp at hhead

theorem isControl_of_word {d : Char} (h : d ∈ CharSet.word) : isControl d = false := by
  rw [CharSet.mem_word_toNat] at h
  rw [Bool.eq_false_iff, ne_eq, isControl_iff]
  omega

theorem isControl_of_mem_framed {start sep : Text} {d : Char}
    (hstart : start.all (!isControl ·) = true) (hsep : sep.all (!isControl ·) = true)
    (h : d ∈ start ++ c.name ++ sep ++ quoted l) : isControl d = false := by
  rcases List.mem_append.1 h with h | h
  · rcases List.mem_append.1 h with h | h
    · rcases List.mem_append.1 h with h | h
      · simpa using List.all_eq_true.1 hstart d h
      · exact isControl_of_word (word_of_mem_name c d h)
    · simpa using List.all_eq_true.1 hsep d h
  · exact isControl_of_mem_quoted h

theorem isControl_of_mem_message {d : Char} (he : e.wanted?.isSome) (h : d ∈ e.message) :
    isControl d = false := by
  cases e with
  | unusablePattern => cases he
  | notOpened c l => exact isControl_of_mem_framed (by decide) (by decide) h
  | nameless c l => exact isControl_of_mem_framed (by decide) (by decide) h

/-- The message of an error about a line is that of no other error, nor of one about a pattern,
whatever the pattern is called and whatever is wrong with it. It stands on one line, without control
characters, also if the line that it shows has them. -/
theorem message_unambiguous (e : Error) (he : e.wanted?.isSome) :
    (∀ e' : Error, e'.message = e.message → e' = e) ∧
      (∀ shape fault, (unusablePattern shape fault).message ≠ e.message) ∧
      (∀ rule source : Text,
        "failed to compile ".toList ++ rule ++ " pattern: ".toList ++ source ≠ e.message) ∧
      (∀ d ∈ e.message, isControl d = false) := by
  refine ⟨fun e' => message_inj he, ?_, ?_, fun d => isControl_of_mem_message he⟩
  · intro shape fault h
    rw [← message_inj he h] at he
    cases he
  · intro rule source h
    have hhead := congrArg List.head? h
    rw [head?_message] at hhead
    cases e with
    | unusablePattern => cases he
    | notOpened | nameless => simp at hhead

-- The line holds a line feed, and its escape written out.
theorem message_unambiguous_feed :
    (notOpened .classHeader "\n\\n".toList).wanted?.isSome ∧
      (notOpened .classHeader "\n\\n".toList).message =
        "line is not a class_declaration: \"\\n\\\\n\"".toList ∧
      ∀ d ∈ (notOpened .classHeader "\n\\n".toList).message, isControl d = false := by
  have he : (notOpened .classHeader "\n\\n".toList).wanted?.isSome := rfl
  exact ⟨he, by decide, (message_unambiguous _ he).2.2.2⟩

end SourceLine.Error
