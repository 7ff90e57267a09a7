import UsbHost.Toml.QuotedText
import UsbHost.Toml.Writer

/-!
# Written texts are read back

Whichever form a text is written in, reading it gives the text and leaves what stands behind it.
The two forms that escape suit every text. The literal forms suit texts without the quotes, or the
runs of quotes, that would end them too early, and a text is only written in a form that suits it.
-/

set_option autoImplicit false

namespace UsbHost.Toml

variable {c : Char} {rest : List Char}

/-! ## One character of a basic text -/

theorem isBasicChar_iff :
    isBasicChar c ↔ needsEscape c = false ∧ c ≠ '\n' ∧ c ≠ '"' ∧ c ≠ '\\' := by
  have lineFeed : isCommentChar '\n' = false := by decide
  simp only [isBasicChar, needsEscape, Bool.and_eq_true, bne_iff_ne, ne_eq, Bool.not_eq_false',
    Bool.or_eq_true, beq_iff_eq]
  constructor
  · rintro ⟨⟨plain, quote⟩, backslash⟩
    exact ⟨.inl plain, fun same => by simp [same, lineFeed] at plain, quote, backslash⟩
  · rintro ⟨plain | same, broken, quote, backslash⟩
    · exact ⟨⟨plain, quote⟩, backslash⟩
    · exact absurd same broken

theorem isLiteralChar_iff : isLiteralChar c ↔ needsEscape c = false ∧ c ≠ '\n' ∧ c ≠ '\'' := by
  have lineFeed : isCommentChar '\n' = false := by decide
  simp only [isLiteralChar, needsEscape, Bool.and_eq_true, bne_iff_ne, ne_eq, Bool.not_eq_false',
    Bool.or_eq_true, beq_iff_eq]
  constructor
  · rintro ⟨plain, quote⟩
    exact ⟨.inl plain, fun same => by simp [same, lineFeed] at plain, quote⟩
  · rintro ⟨plain | same, broken, quote⟩
    · exact ⟨plain, quote⟩
    · exact absurd same broken

theorem needsEscape_lt (special : needsEscape c) : c.toNat < 128 := by
  simp only [needsEscape, isCommentChar, Bool.not_eq_true', Bool.or_eq_false_iff,
    Bool.and_eq_false_iff, decide_eq_false_iff_not, bne_eq_false_iff_eq] at special
  omega

theorem charOfHex?_upperHexDigits : ∀ n < 128,
    Text.charOfHex? ([n / 4096 % 16, n / 256 % 16, n / 16 % 16, n % 16].map upperHexDigit) =
      some (Char.ofNat n) := by
  decide

/-- What stands for a character behind a backslash is read as that character, and is not taken for
the end of a line. -/
structure Escapes (escaped : List Char) (c : Char) : Prop where
  read : ∀ rest, escape? (escaped ++ rest) = some (c, rest)
  stays : ∀ rest, continuesLine (escaped ++ rest) = false

theorem escapes_simple {mark : Char} (known : simpleEscape? mark = some c) : Escapes [mark] c where
  read := by
    intro rest
    have notNumbered : mark ≠ 'u' ∧ mark ≠ 'U' := by
      constructor <;> (rintro rfl; simp [simpleEscape?] at known)
    rw [List.singleton_append, escape?, known]
    · rfl
    · exact fun _ _ _ _ _ same => absurd same notNumbered.1
    · exact fun _ _ _ _ _ _ _ _ _ same => absurd same notNumbered.2
  stays := by
    intro rest
    unfold simpleEscape? at known
    split at known <;> first | rfl | contradiction

theorem escapes_numbered (special : needsEscape c) :
    ∃ escaped, numberedEscape c = '\\' :: escaped ∧ Escapes escaped c := by
  have digits := charOfHex?_upperHexDigits c.toNat (needsEscape_lt special)
  rw [Char.ofNat_toNat] at digits
  refine ⟨_, rfl, ?_, fun _ => rfl⟩
  intro rest
  exact congrArg (Option.map fun c => (c, rest)) digits

/-- A character within a basic text stands for itself or is escaped. -/
theorem writeBasicChar_cases (quote : c ≠ '"') (lineFeed : c ≠ '\n') :
    (writeBasicChar c = [c] ∧ isBasicChar c) ∨
      ∃ escaped, writeBasicChar c = '\\' :: escaped ∧ Escapes escaped c := by
  unfold writeBasicChar
  split
  · next same =>
    obtain rfl := same
    exact .inr ⟨_, rfl, escapes_simple rfl⟩
  split
  · next same =>
    obtain rfl := same
    exact .inr ⟨_, rfl, escapes_simple rfl⟩
  split
  · next same =>
    obtain rfl := same
    exact .inr ⟨_, rfl, escapes_simple rfl⟩
  split
  · next same =>
    obtain rfl := same
    exact .inr ⟨_, rfl, escapes_simple rfl⟩
  split
  · next same =>
    obtain rfl := same
    exact .inr ⟨_, rfl, escapes_simple rfl⟩
  split
  · next special => exact .inr (escapes_numbered special)
  · next backslash plain =>
    exact .inl ⟨rfl, isBasicChar_iff.mpr ⟨by simpa using plain, lineFeed, quote, backslash⟩⟩

/-! ## Texts on one line -/

theorem basicText_char (basic : isBasicChar c) :
    basicText (c :: rest) = prepend c (basicText rest) := by
  obtain ⟨-, -, quote, backslash⟩ := isBasicChar_iff.mp basic
  rw [basicText, if_pos basic]
  · exact quote
  · exact backslash

theorem basicText_escape {escaped : List Char} (escapes : Escapes escaped c) :
    basicText ('\\' :: (escaped ++ rest)) = prepend c (basicText rest) := by
  have read := escapes.read rest
  rw [basicText]
  split
  · next found =>
    rw [read] at found
    cases found
    rfl
  · next missing =>
    rw [read] at missing
    contradiction

theorem basicText_writeBasic (text rest : List Char) :
    basicText (writeBasic text ++ '"' :: rest) = some (text, rest) := by
  unfold writeBasic
  induction text with
  | nil => simp [basicText]
  | cons c text ih =>
    rw [List.flatMap_cons, List.append_assoc]
    split
    · next same =>
      obtain rfl := same
      exact (basicText_escape (escapes_simple rfl)).trans (congrArg (prepend '"') ih)
    split
    · next same =>
      obtain rfl := same
      exact (basicText_escape (escapes_simple rfl)).trans (congrArg (prepend '\n') ih)
    · next quote lineFeed =>
      rcases writeBasicChar_cases quote lineFeed with ⟨written, basic⟩ | ⟨escaped, written, escapes⟩
      · rw [written]
        exact (basicText_char basic).trans (congrArg (prepend c) ih)
      · rw [written]
        exact (basicText_escape escapes).trans (congrArg (prepend c) ih)

theorem literalText_closed {text : List Char} (literal : ∀ c ∈ text, isLiteralChar c)
    (rest : List Char) : literalText (text ++ '\'' :: rest) = some (text, rest) := by
  induction text with
  | nil => simp [literalText]
  | cons c text ih =>
    obtain ⟨first, others⟩ := List.forall_mem_cons.mp literal
    obtain ⟨-, -, quote⟩ := isLiteralChar_iff.mp first
    rw [List.cons_append, literalText, if_pos first, ih others]
    · rfl
    · exact quote

/-! ## Texts over several lines -/

def StartsTwice (quote : Char) (cs : List Char) : Prop :=
  ∃ rest, cs = quote :: quote :: rest

/-- A reader of texts between triple quotes. A quote is one of the text as long as no two quotes
follow it, and up to two quotes may stand before the closing ones. -/
structure ReadsTriple (quote : Char) (read : List Char → Option (List Char × List Char)) :
    Prop where
  single : ∀ rest, ¬ StartsTwice quote rest →
    read (quote :: rest) = prepend quote (read rest)
  close : ∀ rest, rest.head? ≠ some quote →
    read (quote :: quote :: quote :: rest) = some ([], rest)
  closeOne : ∀ rest, rest.head? ≠ some quote →
    read (quote :: quote :: quote :: quote :: rest) = some ([quote], rest)
  closeTwo : ∀ rest,
    read (quote :: quote :: quote :: quote :: quote :: rest) = some ([quote, quote], rest)

theorem multilineBasicText_reads : ReadsTriple '"' multilineBasicText where
  single := by
    intro rest single
    rw [multilineBasicText]
    · exact fun _ same => single ⟨_, same⟩
    · exact fun _ same => single ⟨_, same⟩
    · exact fun _ same => single ⟨_, same⟩
  close := by
    intro rest ends
    rw [multilineBasicText]
    · rintro _ rfl
      exact ends rfl
    · rintro _ rfl
      exact ends rfl
  closeOne := by
    intro rest ends
    rw [multilineBasicText]
    rintro _ rfl
    exact ends rfl
  closeTwo := by
    intro rest
    rw [multilineBasicText]

theorem multilineLiteralText_reads : ReadsTriple '\'' multilineLiteralText where
  single := by
    intro rest single
    rw [multilineLiteralText]
    · exact fun _ same => single ⟨_, same⟩
    · exact fun _ same => single ⟨_, same⟩
    · exact fun _ same => single ⟨_, same⟩
  close := by
    intro rest ends
    rw [multilineLiteralText]
    · rintro _ rfl
      exact ends rfl
    · rintro _ rfl
      exact ends rfl
  closeOne := by
    intro rest ends
    rw [multilineLiteralText]
    rintro _ rfl
    exact ends rfl
  closeTwo := by
    intro rest
    rw [multilineLiteralText]

/-- A text as it is written between triple quotes, given that `run` quotes stand directly before:
never three quotes in a row, and everything else in a way that is read back. -/
inductive Inside (quote : Char) (read : List Char → Option (List Char × List Char)) :
    Nat → List Char → List Char → Prop where
  | nil {run : Nat} : Inside quote read run [] []
  | quote {run : Nat} {text written : List Char} : run < 2 →
      Inside quote read (run + 1) text written →
      Inside quote read run (quote :: text) (quote :: written)
  | char {run : Nat} {c first : Char} (others : List Char) {text written : List Char} :
      first ≠ quote →
      (∀ rest, read (first :: (others ++ rest)) = prepend c (read rest)) →
      Inside quote read 0 text written →
      Inside quote read run (c :: text) (first :: (others ++ written))

theorem Inside.read {quote : Char} {read : List Char → Option (List Char × List Char)}
    {run : Nat} {text written : List Char} (inside : Inside quote read run text written)
    (reads : ReadsTriple quote read) (ends : rest.head? ≠ some quote) :
    read (written ++ quote :: quote :: quote :: rest) = some (text, rest) := by
  induction inside with
  | nil => exact reads.close rest ends
  | char others _ char _ ih =>
    rw [List.cons_append, List.append_assoc, char, ih]
    rfl
  | quote few inner ih =>
    -- Only the last two quotes of the text stand directly before the closing ones.
    cases inner with
    | nil => exact reads.closeOne rest ends
    | char _ other _ _ =>
      refine (reads.single _ ?_).trans (congrArg (prepend quote) ih)
      rintro ⟨_, same⟩
      exact other (List.cons.inj same).1
    | quote fewer innermost =>
      cases innermost with
      | nil => exact reads.closeTwo rest
      | quote fewest _ => omega
      | char _ other _ _ =>
        refine (reads.single _ ?_).trans (congrArg (prepend quote) ih)
        rintro ⟨_, same⟩
        exact other (List.cons.inj (List.cons.inj same).2).1

theorem multilineBasicText_char (basic : isBasicChar c) :
    multilineBasicText (c :: rest) = prepend c (multilineBasicText rest) := by
  obtain ⟨plain, lineFeed, quote, backslash⟩ := isBasicChar_iff.mp basic
  have noReturn : c ≠ '\r' := by
    rintro rfl
    exact absurd plain (by decide)
  rw [multilineBasicText, if_pos basic]
  · exact fun _ same => absurd same quote
  · exact fun _ same => absurd same quote
  · exact fun _ same => absurd same quote
  · exact quote
  · exact fun _ same => absurd same noReturn
  · exact lineFeed
  · exact backslash

theorem multilineBasicText_escape {escaped : List Char} (escapes : Escapes escaped c) :
    multilineBasicText ('\\' :: (escaped ++ rest)) = prepend c (multilineBasicText rest) := by
  have read := escapes.read rest
  rw [multilineBasicText, if_neg (by simp [escapes.stays])]
  split
  · next found =>
    rw [read] at found
    cases found
    rfl
  · next missing =>
    rw [read] at missing
    contradiction

theorem multilineLiteralText_char (literal : isLiteralChar c) :
    multilineLiteralText (c :: rest) = prepend c (multilineLiteralText rest) := by
  obtain ⟨plain, lineFeed, quote⟩ := isLiteralChar_iff.mp literal
  have noReturn : c ≠ '\r' := by
    rintro rfl
    exact absurd plain (by decide)
  rw [multilineLiteralText, if_pos literal]
  · exact fun _ same => absurd same quote
  · exact fun _ same => absurd same quote
  · exact fun _ same => absurd same quote
  · exact quote
  · exact fun _ same => absurd same noReturn
  · exact lineFeed

theorem inside_writeMultilineBasic (text : List Char) (run : Nat) :
    Inside '"' multilineBasicText run text (writeMultilineBasic run text) := by
  induction text generalizing run with
  | nil => exact .nil
  | cons c text ih =>
    by_cases quote : c = '"'
    · obtain rfl := quote
      rw [writeMultilineBasic]
      split
      · next few => exact .quote few (ih _)
      · exact .char ['"'] (by decide) (fun _ => multilineBasicText_escape (escapes_simple rfl))
          (ih _)
    by_cases lineFeed : c = '\n'
    · obtain rfl := lineFeed
      rw [writeMultilineBasic]
      refine .char [] (by decide) (fun rest => ?_) (ih _)
      rw [List.nil_append, multilineBasicText]
    · have written : writeMultilineBasic run (c :: text) =
          writeBasicChar c ++ writeMultilineBasic 0 text := by
        rw [writeMultilineBasic]
        · exact quote
        · exact lineFeed
      rw [written]
      rcases writeBasicChar_cases quote lineFeed with ⟨written, basic⟩ | ⟨escaped, written, escapes⟩
      · rw [written]
        exact .char [] quote (fun _ => multilineBasicText_char basic) (ih _)
      · rw [written]
        exact .char escaped (by decide) (fun _ => multilineBasicText_escape escapes) (ih _)

/-! ### Runs of quotes -/

theorem le_longestRunFrom (quote : Char) (text : List Char) (run : Nat) :
    run ≤ longestRunFrom quote run text := by
  induction text generalizing run with
  | nil => exact Nat.le_refl _
  | cons c text ih =>
    rw [longestRunFrom]
    split
    · exact Nat.le_trans (Nat.le_succ _) (ih _)
    · exact Nat.le_max_left ..

theorem inside_literal {text : List Char} (plain : ∀ c ∈ text, needsEscape c = false) (run : Nat)
    (short : longestRunFrom '\'' run text ≤ 2) :
    Inside '\'' multilineLiteralText run text text := by
  induction text generalizing run with
  | nil => exact .nil
  | cons c text ih =>
    obtain ⟨first, others⟩ := List.forall_mem_cons.mp plain
    rw [longestRunFrom] at short
    split at short
    · next same =>
      obtain rfl := same
      exact .quote (Nat.le_trans (le_longestRunFrom ..) short) (ih others _ short)
    · next quote =>
      have inner := ih others 0 (Nat.le_trans (Nat.le_max_right ..) short)
      refine .char [] quote (fun rest => ?_) inner
      by_cases lineFeed : c = '\n'
      · obtain rfl := lineFeed
        rw [List.nil_append, multilineLiteralText]
      · exact multilineLiteralText_char (isLiteralChar_iff.mpr ⟨first, lineFeed, quote⟩)

/-! ## Forms -/

/-- Whether a text can be written in a form. -/
def QuoteForm.Suits (text : List Char) : QuoteForm → Prop
  | .basic | .multilineBasic => True
  | .literal => ∀ c ∈ text, isLiteralChar c
  | .multilineLiteral =>
    (∀ c ∈ text, needsEscape c = false) ∧ longestRun '\'' text ≤ 2

theorem QuoteForm.of_suits (text : List Char) : (QuoteForm.of text).Suits text := by
  unfold QuoteForm.of
  dsimp only
  split
  · trivial
  split
  · next literal =>
    simp only [Bool.and_eq_true, Bool.not_eq_true', List.any_eq_false, Bool.not_eq_true,
      List.contains_eq_mem, decide_eq_false_iff_not] at literal
    obtain ⟨⟨plain, noQuote⟩, noLineFeed⟩ := literal
    intro c member
    refine isLiteralChar_iff.mpr ⟨plain c member, ?_, ?_⟩
    · rintro rfl
      exact noLineFeed member
    · rintro rfl
      exact noQuote member
  split
  · trivial
  split
  · next literal =>
    simp only [Bool.and_eq_true, Bool.not_eq_true', List.any_eq_false, Bool.not_eq_true,
      decide_eq_true_eq] at literal
    exact literal
  split <;> trivial

theorem newline?_eq_none {first : Char} (lineFeed : first ≠ '\n') (noReturn : first ≠ '\r') :
    newline? (first :: rest) = none := by
  unfold newline?
  split
  · next same => exact absurd (List.cons.inj same).1 lineFeed
  · next same => exact absurd (List.cons.inj same).1 noReturn
  · rfl

/-- The line break behind opening triple quotes is written exactly when it will be skipped. -/
theorem skipFirstBreak_firstBreak {text written : List Char}
    (sameLine : '\n' ∉ text → newline? written = none) :
    skipFirstBreak (firstBreak text ++ written) = written := by
  unfold skipFirstBreak firstBreak
  split
  · rfl
  · next single =>
    rw [List.nil_append, sameLine (by simpa using single)]
    rfl

theorem writeBasicChar_first (quote : c ≠ '"') (lineFeed : c ≠ '\n') :
    ∃ first others, writeBasicChar c = first :: others ∧
      first ≠ '"' ∧ first ≠ '\n' ∧ first ≠ '\r' := by
  rcases writeBasicChar_cases quote lineFeed with ⟨written, basic⟩ | ⟨escaped, written, -⟩
  · refine ⟨c, [], written, quote, lineFeed, ?_⟩
    rintro rfl
    exact absurd basic (by decide)
  · exact ⟨'\\', escaped, written, by decide, by decide, by decide⟩

theorem newline?_writeMultilineBasic {text : List Char} (single : '\n' ∉ text) :
    newline? (writeMultilineBasic 0 text ++ '"' :: rest) = none := by
  cases text with
  | nil => exact newline?_eq_none (by decide) (by decide)
  | cons c text =>
    have lineFeed : c ≠ '\n' := fun same => single (same ▸ List.mem_cons_self)
    by_cases quote : c = '"'
    · obtain rfl := quote
      exact newline?_eq_none (by decide) (by decide)
    · obtain ⟨first, others, written, -, broken, returned⟩ := writeBasicChar_first quote lineFeed
      rw [writeMultilineBasic, written]
      · exact newline?_eq_none broken returned
      · exact quote
      · exact lineFeed

theorem newline?_literal {text : List Char} (plain : ∀ c ∈ text, needsEscape c = false)
    (single : '\n' ∉ text) : newline? (text ++ '\'' :: rest) = none := by
  cases text with
  | nil => exact newline?_eq_none (by decide) (by decide)
  | cons c text =>
    refine newline?_eq_none (fun same => single (same ▸ List.mem_cons_self)) ?_
    rintro rfl
    exact absurd (plain '\r' List.mem_cons_self) (by decide)

theorem not_startsTwice_writeBasic (text : List Char) (ends : rest.head? ≠ some '"') :
    ¬ StartsTwice '"' (writeBasic text ++ '"' :: rest) := by
  rintro ⟨more, same⟩
  cases text with
  | nil =>
    obtain rfl := (List.cons.inj same).2
    exact ends rfl
  | cons c text =>
    rw [writeBasic, List.flatMap_cons] at same
    split at same
    · exact absurd (List.cons.inj same).1 (by decide)
    split at same
    · exact absurd (List.cons.inj same).1 (by decide)
    · next quote lineFeed =>
      obtain ⟨first, others, written, other, -⟩ := writeBasicChar_first quote lineFeed
      rw [written] at same
      exact other (List.cons.inj same).1

theorem not_startsTwice_literal {text : List Char} (literal : ∀ c ∈ text, isLiteralChar c)
    (ends : rest.head? ≠ some '\'') : ¬ StartsTwice '\'' (text ++ '\'' :: rest) := by
  rintro ⟨more, same⟩
  cases text with
  | nil =>
    obtain rfl := (List.cons.inj same).2
    exact ends rfl
  | cons c text =>
    obtain ⟨-, -, quote⟩ := isLiteralChar_iff.mp (literal c List.mem_cons_self)
    exact quote (List.cons.inj same).1

/-- A text that is written in a form that suits it is read back, unless more quotes follow. -/
theorem quotedText?_write {form : QuoteForm} {text : List Char} (suits : form.Suits text)
    (double : rest.head? ≠ some '"') (single : rest.head? ≠ some '\'') :
    quotedText? (form.write text ++ rest) = some (text, rest) := by
  cases form with
  | basic =>
    have alone := not_startsTwice_writeBasic text double
    have written : QuoteForm.basic.write text ++ rest =
        '"' :: (writeBasic text ++ '"' :: rest) := by
      simp [QuoteForm.write]
    rw [written, quotedText?]
    · exact basicText_writeBasic text rest
    · exact fun _ same => alone ⟨_, (List.cons.inj same).2⟩
    · exact fun _ same => absurd (List.cons.inj same).1 (by decide)
  | literal =>
    have alone := not_startsTwice_literal suits single
    have written : QuoteForm.literal.write text ++ rest = '\'' :: (text ++ '\'' :: rest) := by
      simp [QuoteForm.write]
    rw [written, quotedText?]
    · exact literalText_closed suits rest
    · exact fun _ same => absurd (List.cons.inj same).1 (by decide)
    · exact fun _ same => alone ⟨_, (List.cons.inj same).2⟩
  | multilineBasic =>
    have written : QuoteForm.multilineBasic.write text ++ rest = '"' :: '"' :: '"' ::
        (firstBreak text ++ (writeMultilineBasic 0 text ++ '"' :: '"' :: '"' :: rest)) := by
      simp [QuoteForm.write]
    rw [written, quotedText?, skipFirstBreak_firstBreak newline?_writeMultilineBasic]
    exact (inside_writeMultilineBasic text 0).read multilineBasicText_reads double
  | multilineLiteral =>
    obtain ⟨plain, short⟩ := suits
    have written : QuoteForm.multilineLiteral.write text ++ rest = '\'' :: '\'' :: '\'' ::
        (firstBreak text ++ (text ++ '\'' :: '\'' :: '\'' :: rest)) := by
      simp [QuoteForm.write]
    rw [written, quotedText?, skipFirstBreak_firstBreak (newline?_literal plain)]
    exact (inside_literal plain 0 short).read multilineLiteralText_reads single

end UsbHost.Toml
