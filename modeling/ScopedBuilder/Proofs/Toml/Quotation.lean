import ScopedBuilder.Toml.Quotation
import ScopedBuilder.Toml.Writer

/-!
# Quoted text read back

Every text can be read in the quotation that is chosen for it, and the reader returns the text and what
follows. All four quotations spell a text out in the same way: a character is spelled by something that
the reader takes for that character alone, and a quote may stand for itself as long as not too many come
in a row. A reader over lines looks ahead in such a run, so the invariant carries the quotes that are
written but not yet read.
-/

namespace ScopedBuilder.Toml

variable {multiline : Bool} {q c d : Char} {cs text written rest : List Char} {run limit longest : Nat}

/-! ## Characters -/

@[simp]
theorem addChar_some : addChar c (some (text, rest)) = some (c :: text, rest) := rfl

theorem hexDigit?_upperHexDigit {n : Nat} (h : n < 16) : hexDigit? (upperHexDigit n) = some n := by
  have hall : ∀ n < 16, hexDigit? (upperHexDigit n) = some n := by decide
  exact hall n h

theorem charOfCode?_toNat (c : Char) : charOfCode? c.toNat = some c := by
  have hvalid : c.toNat.isValidChar := c.valid
  rw [charOfCode?, if_pos hvalid, Char.ofNat_toNat]

theorem lineBreak?_cons (hnewline : c ≠ '\n') (hreturn : c ≠ '\r') :
    lineBreak? (c :: rest) = none := by
  unfold lineBreak?
  split <;> simp_all

theorem skipBlanks_cons (h : isBlank c = false) : skipBlanks (c :: rest) = c :: rest :=
  List.dropWhile_cons_of_neg (by simp [h])

/-- A line does not end before a character that is neither blank nor a line break. -/
theorem endsLine_cons (hblank : isBlank c = false) (hnewline : c ≠ '\n') (hreturn : c ≠ '\r') :
    endsLine (c :: rest) = false := by
  rw [endsLine, skipBlanks_cons hblank, lineBreak?_cons hnewline hreturn]
  rfl

/-- A character that can stand for itself in a text of one line or of several. -/
def IsVerbatim (multiline : Bool) (c : Char) : Prop :=
  isPlain c = true ∨ multiline = true ∧ c = '\n'

theorem IsVerbatim.ne_return (h : IsVerbatim multiline c) : c ≠ '\r' := by
  rintro rfl
  simp [IsVerbatim, isPlain, isControl] at h

/-! ## Escapes -/

theorem basicText_verbatim (hquote : c ≠ '"') (hbackslash : c ≠ '\\') (h : IsVerbatim multiline c) :
    basicText multiline .text (c :: rest) = addChar c (basicText multiline .text rest) := by
  have hreturn := h.ne_return
  unfold IsVerbatim at h
  rw [basicText.eq_def]
  simp [hquote, hbackslash, hreturn, h]

theorem basicText_escape :
    basicText multiline .text ('\\' :: rest) = basicText multiline .escape rest := by
  rw [basicText.eq_def]
  rfl

/-- An escape of one letter. -/
theorem basicText_letter (h : escapedChar? c = some d) :
    basicText multiline .text ('\\' :: c :: rest) = addChar d (basicText multiline .text rest) := by
  have hne (other : Char) (hother : escapedChar? other = none) : c ≠ other := by
    rintro rfl
    exact Option.some_ne_none d (h.symm.trans hother)
  have hu := hne 'u' rfl
  have hU := hne 'U' rfl
  have hblank : isBlank c = false := by simp [isBlank, hne ' ' rfl, hne '\t' rfl]
  have hends : endsLine (c :: rest) = false := endsLine_cons hblank (hne '\n' rfl) (hne '\r' rfl)
  rw [basicText_escape, basicText.eq_def]
  simp [hends, hu, hU, h]

/-- An escape of four digits. -/
theorem basicText_code (h : c.toNat < 256) :
    basicText multiline .text
        ('\\' :: 'u' :: '0' :: '0' :: upperHexDigit (c.toNat / 16) :: upperHexDigit (c.toNat % 16) ::
          rest) =
      addChar c (basicText multiline .text rest) := by
  have hends : endsLine ('u' :: '0' :: '0' :: upperHexDigit (c.toNat / 16) ::
      upperHexDigit (c.toNat % 16) :: rest) = false := rfl
  have hhigh : hexDigit? (upperHexDigit (c.toNat / 16)) = some (c.toNat / 16) :=
    hexDigit?_upperHexDigit (by omega)
  have hlow : hexDigit? (upperHexDigit (c.toNat % 16)) = some (c.toNat % 16) :=
    hexDigit?_upperHexDigit (by omega)
  have hzero : hexDigit? '0' = some 0 := rfl
  have hvalue : 16 * (16 * (16 * (16 * 0 + 0) + 0) + c.toNat / 16) + c.toNat % 16 = c.toNat := by omega
  simp only [basicText, hends, hhigh, hlow, hzero, hvalue, charOfCode?_toNat]
  simp

theorem basicText_controlEscape (h : isControl c = true) :
    basicText multiline .text (controlEscape c ++ rest) =
      addChar c (basicText multiline .text rest) := by
  have hcode : c.toNat < 256 := by simp [isControl] at h; omega
  unfold controlEscape
  split
  case h_6 => exact basicText_code hcode
  all_goals exact basicText_letter rfl

theorem controlEscape_eq_cons (c : Char) : ∃ ds, controlEscape c = '\\' :: ds := by
  unfold controlEscape
  split <;> exact ⟨_, rfl⟩

/-! ## Spelling -/

/-- The reader takes the piece for the character alone. A piece does not begin with the quote, and with
a line break only if it spells one. -/
structure Spells (read : List Char → Option (List Char × List Char)) (q c : Char) (piece : List Char) :
    Prop where
  read_append : ∀ tail, read (piece ++ tail) = addChar c (read tail)
  head : ∃ d ds, piece = d :: ds ∧ d ≠ q ∧ d ≠ '\r' ∧ (d = '\n' → c = '\n')

/-- A text spelled out after a run of quotes. A quote stands for itself where the run is shorter than the
limit. -/
inductive Spelling (read : List Char → Option (List Char × List Char)) (q : Char) (limit : Nat) :
    Nat → List Char → List Char → Prop where
  | nil {run : Nat} : Spelling read q limit run [] []
  | quote {run : Nat} {cs written : List Char} (hrun : run < limit)
      (hrest : Spelling read q limit (run + 1) cs written) :
      Spelling read q limit run (q :: cs) (q :: written)
  | char {run : Nat} {c : Char} {piece cs written : List Char} (hpiece : Spells read q c piece)
      (hrest : Spelling read q limit 0 cs written) :
      Spelling read q limit run (c :: cs) (piece ++ written)

/-- A reader over lines takes three quotes for the end of the text, and a quote for itself where no two
follow. -/
structure ClosesAtThree (q : Char) (read : List Char → Option (List Char × List Char)) : Prop where
  closing : ∀ after, read (q :: q :: q :: after) = some (finalQuotes q after)
  quote : ∀ rest, (∀ after, rest ≠ q :: q :: after) → read (q :: rest) = addChar q (read rest)

theorem finalQuotes_of_head?_ne (hrest : rest.head? ≠ some q) : finalQuotes q rest = ([], rest) := by
  cases rest with
  | nil => rfl
  | cons c rest =>
      have hc : c ≠ q := by simpa using hrest
      simp [finalQuotes, hc]

/-- Up to two quotes after the first three belong to the text. -/
theorem finalQuotes_replicate (hrun : run ≤ 2) (hrest : rest.head? ≠ some q) :
    finalQuotes q (List.replicate run q ++ rest) = (List.replicate run q, rest) := by
  match run, hrun with
  | 0, _ => exact finalQuotes_of_head?_ne hrest
  | 1, _ =>
      cases rest with
      | nil => simp [finalQuotes]
      | cons c rest =>
          have hc : c ≠ q := by simpa using hrest
          simp [finalQuotes, hc]
  | 2, _ => simp [finalQuotes, List.replicate]

section Reading

variable {read : List Char → Option (List Char × List Char)}

/-- Quotes that do not close the text belong to it. -/
theorem ClosesAtThree.read_replicate (h : ClosesAtThree q read) (hrun : run ≤ 2) (hd : d ≠ q)
    (hread : read (d :: cs) = some (text, rest)) :
    read (List.replicate run q ++ d :: cs) = some (List.replicate run q ++ text, rest) := by
  induction run with
  | zero => exact hread
  | succ run ih =>
      have hahead : ∀ after, List.replicate run q ++ d :: cs ≠ q :: q :: after := by
        intro after heq
        match run, hrun with
        | 0, _ => exact hd (List.cons.inj heq).1
        | 1, _ => exact hd (List.cons.inj (List.cons.inj heq).2).1
      rw [List.replicate_succ, List.cons_append, h.quote _ hahead, ih (by omega)]
      rfl

namespace Spelling

/-- A text on one line is read up to the first quote. -/
theorem read_line (hclose : ∀ rest, read (q :: rest) = some ([], rest))
    (h : Spelling read q 0 run text written) : read (written ++ q :: rest) = some (text, rest) := by
  induction h with
  | nil => exact hclose rest
  | quote hrun => omega
  | char hpiece _ ih => rw [List.append_assoc, hpiece.read_append, ih]; rfl

/-- A text over lines is read up to three quotes; the quotes before it that are not read yet belong to
it. -/
theorem read_lines (hread : ClosesAtThree q read) (h : Spelling read q 2 run text written)
    (hrun : run ≤ 2) (hrest : rest.head? ≠ some q) :
    read (List.replicate run q ++ (written ++ q :: q :: q :: rest)) =
      some (List.replicate run q ++ text, rest) := by
  induction h with
  | @nil run =>
      have hquotes : List.replicate run q ++ q :: q :: q :: rest =
          q :: q :: q :: (List.replicate run q ++ rest) := by
        change List.replicate run q ++ (List.replicate 3 q ++ rest) =
          List.replicate 3 q ++ (List.replicate run q ++ rest)
        rw [← List.append_assoc, ← List.append_assoc, List.replicate_append_replicate,
          List.replicate_append_replicate, Nat.add_comm]
      rw [List.nil_append, hquotes, hread.closing, finalQuotes_replicate hrun hrest, List.append_nil]
  | @quote run cs written hlt _ ih =>
      have hquotes (tail : List Char) :
          List.replicate run q ++ q :: tail = List.replicate (run + 1) q ++ tail := by
        rw [List.replicate_succ', List.append_assoc, List.singleton_append]
      rw [List.cons_append, hquotes, hquotes, ih (by omega)]
  | @char run c piece cs written hpiece _ ih =>
      obtain ⟨d, ds, rfl, hd, -, -⟩ := hpiece.head
      have htail : read (written ++ q :: q :: q :: rest) = some (cs, rest) := ih (by omega)
      have hall := hpiece.read_append (written ++ q :: q :: q :: rest)
      rw [htail, addChar_some] at hall
      -- The piece does not go on with the run, so all its quotes can be read now.
      rw [List.append_assoc]
      exact hread.read_replicate hrun hd hall

/-- On one line two quotes in a row are the quotes around nothing. -/
theorem ne_quotes (h : Spelling read q 0 run text written) (hrest : rest.head? ≠ some q)
    (after : List Char) : written ++ q :: rest ≠ q :: q :: after := by
  intro heq
  cases h with
  | nil => exact hrest (by simp_all)
  | quote hrun => omega
  | char hpiece =>
      obtain ⟨d, ds, rfl, hd, -, -⟩ := hpiece.head
      exact hd (List.cons.inj heq).1

/-- Without a line break in the text, there is none directly after the opening quotes. -/
theorem lineBreak?_eq_none (h : Spelling read q limit run text written) (htext : '\n' ∉ text)
    (hnewline : q ≠ '\n') (hreturn : q ≠ '\r') : lineBreak? (written ++ q :: rest) = none := by
  cases h with
  | nil | quote => exact lineBreak?_cons hnewline hreturn
  | char hpiece =>
      obtain ⟨d, ds, rfl, -, hdreturn, hdnewline⟩ := hpiece.head
      refine lineBreak?_cons (fun hd => htext ?_) hdreturn
      exact hdnewline hd ▸ List.mem_cons_self

/-- The line break that is written before a text of several lines is skipped, and nothing else. -/
theorem skipLineBreak_opening (h : Spelling read q limit run text written) (hnewline : q ≠ '\n')
    (hreturn : q ≠ '\r') :
    skipLineBreak ((if text.contains '\n' then ['\n'] else []) ++ (written ++ q :: rest)) =
      written ++ q :: rest := by
  by_cases htext : '\n' ∈ text
  · rw [if_pos (List.contains_iff_mem.mpr htext)]
    rfl
  · rw [if_neg (by simpa using htext), List.nil_append, skipLineBreak,
      h.lineBreak?_eq_none htext hnewline hreturn, Option.getD_none]

end Spelling

end Reading

/-! ## Basic text -/

/-- How a character is written that is not a quote standing for itself. -/
def escapeChar (multiline : Bool) (c : Char) : List Char :=
  if c = '"' ∨ c = '\\' then ['\\', c]
  else if isControl c && !(multiline && c = '\n') then controlEscape c
  else [c]

theorem spells_escapeChar : Spells (basicText multiline .text) '"' c (escapeChar multiline c) := by
  unfold escapeChar
  split
  case isTrue h =>
    refine ⟨fun tail => ?_, '\\', [c], rfl, by decide, by decide, nofun⟩
    rcases h with rfl | rfl <;> exact basicText_letter rfl
  case isFalse h =>
  obtain ⟨hquote, hbackslash⟩ := not_or.mp h
  split
  case isTrue hcontrol =>
    have hcontrol : isControl c = true := (Bool.and_eq_true_iff.mp hcontrol).1
    obtain ⟨ds, hds⟩ := controlEscape_eq_cons c
    exact ⟨fun _ => basicText_controlEscape hcontrol, '\\', ds, hds, by decide, by decide, nofun⟩
  case isFalse hverbatim =>
    have hverbatim : IsVerbatim multiline c := by
      cases hcontrol : isControl c <;> simp_all [IsVerbatim, isPlain]
    exact ⟨fun _ => basicText_verbatim hquote hbackslash hverbatim,
      c, [], rfl, hquote, hverbatim.ne_return, id⟩

theorem spelling_escapeText :
    Spelling (basicText multiline .text) '"' (if multiline then 2 else 0) run text
      (escapeText multiline run text) := by
  induction text generalizing run with
  | nil => exact .nil
  | cons c cs ih =>
      by_cases hquote : c = '"' ∧ run < if multiline then 2 else 0
      case pos =>
        obtain ⟨rfl, hrun⟩ := hquote
        rw [escapeText, if_pos rfl, if_pos hrun]
        exact .quote hrun ih
      case neg =>
        have hwritten : escapeText multiline run (c :: cs) =
            escapeChar multiline c ++ escapeText multiline 0 cs := by
          simp only [escapeText, escapeChar]
          grind
        rw [hwritten]
        exact .char spells_escapeChar ih

theorem closesAtThree_basicText : ClosesAtThree '"' (basicText true .text) where
  closing after := by rw [basicText.eq_def]; rfl
  quote rest hrest := by
    rw [basicText.eq_def]
    -- `hrest` excludes the branch of the three quotes.
    simp only [if_true]

/-! ## Literal text -/

theorem spells_verbatim (hquote : c ≠ '\'') (h : IsVerbatim multiline c) :
    Spells (literalText multiline) '\'' c [c] where
  read_append tail := by
    have hreturn := h.ne_return
    unfold IsVerbatim at h
    rw [List.singleton_append, literalText.eq_def]
    simp [hquote, hreturn, h]
  head := ⟨c, [], rfl, hquote, h.ne_return, id⟩

theorem closesAtThree_literalText : ClosesAtThree '\'' (literalText true) where
  closing after := by rw [literalText.eq_def]; rfl
  quote rest hrest := by
    rw [literalText.eq_def]
    -- `hrest` excludes the branch of the three quotes.
    simp only [if_true]

namespace Quotation

theorem le_longestRunFrom {current : Nat} : longest ≤ longestRunFrom q current longest text := by
  induction text generalizing current longest with
  | nil => exact Nat.le_refl _
  | cons c cs ih =>
      rw [longestRunFrom]
      split
      · exact Nat.le_trans (Nat.le_max_left ..) ih
      · exact ih

/-- With short runs of the quote, text that needs no escape spells itself. -/
theorem spelling_literal (hrun : run ≤ limit)
    (hquotes : longestRunFrom '\'' run longest text ≤ limit)
    (hverbatim : ∀ c ∈ text, IsVerbatim multiline c) :
    Spelling (literalText multiline) '\'' limit run text text := by
  induction text generalizing run longest with
  | nil => exact .nil
  | cons c cs ih =>
      obtain ⟨hc, hcs⟩ := List.forall_mem_cons.mp hverbatim
      rw [longestRunFrom] at hquotes
      split at hquotes
      case isTrue hquote =>
        subst hquote
        have hrun : run + 1 ≤ limit :=
          calc run + 1 ≤ max longest (run + 1) := Nat.le_max_right ..
            _ ≤ longestRunFrom '\'' (run + 1) (max longest (run + 1)) cs := le_longestRunFrom
            _ ≤ limit := hquotes
        exact .quote hrun (ih hrun hquotes hcs)
      case isFalse hquote =>
        exact .char (spells_verbatim hquote hc) (ih (Nat.zero_le _) hquotes hcs)

/-! ## The chosen quotation -/

/-- Whether a text can be written in a quotation; literal text has no escapes. -/
def Suits : Quotation → List Char → Prop
  | basic, _ | multilineBasic, _ => True
  | literal, text => longestRun '\'' text = 0 ∧ ∀ c ∈ text, IsVerbatim false c
  | multilineLiteral, text => longestRun '\'' text ≤ 2 ∧ ∀ c ∈ text, IsVerbatim true c

theorem suits_ofText (text : List Char) : (ofText text).Suits text := by
  have hverbatim (hcontrol : (text.any fun c => isControl c && c ≠ '\t' && c ≠ '\n') = false) :
      ∀ c ∈ text, IsVerbatim true c := by
    intro c hc
    have hc := List.any_eq_false.mp hcontrol c hc
    cases hcontrol : isControl c <;>
      simp_all [IsVerbatim, isPlain, Decidable.or_iff_not_imp_left]
  simp only [ofText]
  split
  · trivial
  split
  case isTrue h =>
    simp only [Bool.and_eq_true, Bool.not_eq_true', decide_eq_true_eq] at h
    obtain ⟨⟨hcontrol, hquotes⟩, hnewline⟩ := h
    have hnewline : '\n' ∉ text := by simpa using hnewline
    refine ⟨hquotes, fun c hc => .inl ((hverbatim hcontrol c hc).resolve_right ?_)⟩
    rintro ⟨-, rfl⟩
    exact hnewline hc
  split
  · trivial
  split
  case isTrue h =>
    simp only [Bool.and_eq_true, Bool.not_eq_true', decide_eq_true_eq] at h
    exact ⟨h.2, hverbatim h.1⟩
  split <;> trivial

end Quotation

/-! ## Any quotation -/

theorem text?_basic (h : ∀ after, cs ≠ '"' :: '"' :: after) :
    text? ('"' :: cs) = basicText false .text cs := by
  unfold text?
  split <;> simp_all [lineText?]

theorem text?_literal (h : ∀ after, cs ≠ '\'' :: '\'' :: after) :
    text? ('\'' :: cs) = literalText false cs := by
  unfold text?
  split <;> simp_all [lineText?]

/-- A text is read back in each quotation that suits it. -/
theorem text?_write {q : Quotation} (h : q.Suits text) (hdouble : rest.head? ≠ some '"')
    (hsingle : rest.head? ≠ some '\'') : text? (q.write text ++ rest) = some (text, rest) := by
  cases q with
  | basic =>
      have hspelling : Spelling (basicText false .text) '"' 0 0 text (escapeText false 0 text) :=
        spelling_escapeText
      have hwrite : Quotation.basic.write text ++ rest =
          '"' :: (escapeText false 0 text ++ '"' :: rest) := by
        simp [Quotation.write, Quotation.isMultiline, Quotation.delimiter]
      rw [hwrite, text?_basic (hspelling.ne_quotes hdouble)]
      exact hspelling.read_line (fun _ => by rw [basicText.eq_def]; rfl)
  | literal =>
      obtain ⟨hquotes, hverbatim⟩ := h
      have hspelling : Spelling (literalText false) '\'' 0 0 text text :=
        Quotation.spelling_literal (Nat.le_refl 0) (Nat.le_of_eq hquotes) hverbatim
      have hwrite : Quotation.literal.write text ++ rest = '\'' :: (text ++ '\'' :: rest) := by
        simp [Quotation.write, Quotation.isMultiline, Quotation.delimiter]
      rw [hwrite, text?_literal (hspelling.ne_quotes hsingle)]
      exact hspelling.read_line (fun _ => by rw [literalText.eq_def]; rfl)
  | multilineBasic =>
      have hspelling : Spelling (basicText true .text) '"' 2 0 text (escapeText true 0 text) :=
        spelling_escapeText
      have hwrite : Quotation.multilineBasic.write text ++ rest =
          '"' :: '"' :: '"' :: ((if text.contains '\n' then ['\n'] else []) ++
            (escapeText true 0 text ++ '"' :: '"' :: '"' :: rest)) := by
        simp [Quotation.write, Quotation.isMultiline, Quotation.delimiter]
      rw [hwrite, text?, hspelling.skipLineBreak_opening (by decide) (by decide)]
      exact hspelling.read_lines closesAtThree_basicText (Nat.zero_le 2) hdouble
  | multilineLiteral =>
      obtain ⟨hquotes, hverbatim⟩ := h
      have hspelling : Spelling (literalText true) '\'' 2 0 text text :=
        Quotation.spelling_literal (Nat.zero_le 2) hquotes hverbatim
      have hwrite : Quotation.multilineLiteral.write text ++ rest =
          '\'' :: '\'' :: '\'' :: ((if text.contains '\n' then ['\n'] else []) ++
            (text ++ '\'' :: '\'' :: '\'' :: rest)) := by
        simp [Quotation.write, Quotation.isMultiline, Quotation.delimiter]
      rw [hwrite, text?, hspelling.skipLineBreak_opening (by decide) (by decide)]
      exact hspelling.read_lines closesAtThree_literalText (Nat.zero_le 2) hsingle

theorem text?_writeText {s : String} (hdouble : rest.head? ≠ some '"')
    (hsingle : rest.head? ≠ some '\'') : text? (writeText s ++ rest) = some (s.toList, rest) :=
  text?_write (Quotation.suits_ofText s.toList) hdouble hsingle

end ScopedBuilder.Toml
