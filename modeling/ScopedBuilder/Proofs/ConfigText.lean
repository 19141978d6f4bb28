import ScopedBuilder.Config.Reader
import ScopedBuilder.Config.Writer
import ScopedBuilder.Proofs.Toml.Quotation

/-!
# Settings written and read back

A document of lines that each set a key is read as the entries it was written from, in the same order.
Since every text can be read in the quotation that is chosen for it, the settings of a builder can be
written and read back whatever texts they hold.
-/

namespace ScopedBuilder

open Toml

variable {c : Char} {rest : List Char}

namespace Toml

/-! ## Values -/

theorem writeText_eq_cons (s : String) : ∃ cs, writeText s = '"' :: cs ∨ writeText s = '\'' :: cs := by
  rw [writeText]
  cases Quotation.ofText s.toList with
  | basic | multilineBasic => exact ⟨_, .inl rfl⟩
  | literal | multilineLiteral => exact ⟨_, .inr rfl⟩

theorem value?_writeText (s : String) :
    value? nestingLimit (writeText s ++ '\n' :: rest) = some (.string s, '\n' :: rest) := by
  have htext : text? (writeText s ++ '\n' :: rest) = some (s.toList, '\n' :: rest) :=
    text?_writeText (by simp) (by simp)
  obtain ⟨cs, hcs | hcs⟩ := writeText_eq_cons s
  all_goals
    rw [hcs, List.cons_append] at htext ⊢
    rw [value?.eq_def]
    simp [htext]

theorem value?_toString (b : Bool) :
    value? nestingLimit ((toString b).toList ++ '\n' :: rest) = some (.boolean b, '\n' :: rest) := by
  cases b <;> simp [value?.eq_def, toString, scalar?, splitWord, scalarOfWord?, isScalarChar, isKeyChar]

/-! ## Keys -/

-- The second part is no bounded `∀`, which would be decided by going through all characters there are.
/-- A key that needs no quotes. -/
def IsBareKey (key : String) : Prop := key.toList ≠ [] ∧ key.toList.all isKeyChar = true

instance (key : String) : Decidable (IsBareKey key) :=
  inferInstanceAs (Decidable (_ ∧ _))

theorem IsBareKey.isKeyChar_of_mem {key : String} (h : IsBareKey key) (hc : c ∈ key.toList) :
    isKeyChar c = true :=
  List.all_eq_true.mp h.2 c hc

theorem isKeyChar_ne {other : Char} (hc : isKeyChar c = true) (hother : isKeyChar other = false) :
    c ≠ other := by
  rintro rfl
  rw [hc] at hother
  cases hother

theorem isBlank_of_isKeyChar (hc : isKeyChar c = true) : isBlank c = false := by
  have hspace : c ≠ ' ' := isKeyChar_ne hc rfl
  have htab : c ≠ '\t' := isKeyChar_ne hc rfl
  simp [isBlank, hspace, htab]

/-- A key is read up to the first character that cannot belong to it. -/
theorem IsBareKey.key?_append {key : String} (h : IsBareKey key) (hc : isKeyChar c = false) :
    key? (key.toList ++ c :: rest) = some (key, c :: rest) := by
  have hkey : ∀ c ∈ key.toList, isKeyChar c = true := fun _ => h.isKeyChar_of_mem
  have htake : (key.toList ++ c :: rest).takeWhile isKeyChar = key.toList := by
    rw [List.takeWhile_append_of_pos hkey, List.takeWhile_cons_of_neg (by simp [hc]), List.append_nil]
  have hdrop : (key.toList ++ c :: rest).dropWhile isKeyChar = c :: rest := by
    rw [List.dropWhile_append_of_pos hkey, List.dropWhile_cons_of_neg (by simp [hc])]
  obtain ⟨d, ds, hds⟩ := List.exists_cons_of_ne_nil h.1
  have hd : isKeyChar d = true := hkey d (hds ▸ List.mem_cons_self)
  have hdouble : d ≠ '"' := isKeyChar_ne hd rfl
  have hsingle : d ≠ '\'' := isKeyChar_ne hd rfl
  unfold key?
  split
  case h_1 heq => rw [hds] at heq; exact absurd (List.cons.inj heq).1 hdouble
  case h_2 heq => rw [hds] at heq; exact absurd (List.cons.inj heq).1 hsingle
  case h_3 => simp [htake, hdrop, h.1]

end Toml

/-! ## Lines -/

/-- A line that sets a key, and the value that is read there. -/
structure Setting where
  key : String
  written : List Char
  value : Value
  isBareKey : IsBareKey key
  written_head : ∃ c cs, written = c :: cs ∧ isBlank c = false
  read : ∀ rest, value? nestingLimit (written ++ '\n' :: rest) = some (value, '\n' :: rest)

namespace Setting

def line (s : Setting) : List Char := Config.line s.key s.written

def statement (s : Setting) : Statement := .entry ⟨[], s.key⟩ s.value

def entry (s : Setting) : String × Value := (s.key, s.value)

variable (s : Setting) (rest : List Char)

theorem line_append :
    s.line ++ rest = s.key.toList ++ ' ' :: '=' :: ' ' :: (s.written ++ '\n' :: rest) := by
  simp [line, Config.line]

/-- A line begins with a character of its key. -/
theorem exists_line_append_eq : ∃ c cs, isKeyChar c = true ∧ s.line ++ rest = c :: cs := by
  obtain ⟨c, cs, hkey⟩ := List.exists_cons_of_ne_nil s.isBareKey.1
  have hc : isKeyChar c = true := s.isBareKey.isKeyChar_of_mem (hkey ▸ List.mem_cons_self)
  exact ⟨c, _, hc, by rw [line_append, hkey]; rfl⟩

theorem skipBlanks_line : skipBlanks (s.line ++ rest) = s.line ++ rest := by
  obtain ⟨c, cs, hc, heq⟩ := s.exists_line_append_eq rest
  rw [heq, skipBlanks_cons (isBlank_of_isKeyChar hc)]

theorem keyPath?_line :
    keyPath? nestingLimit (s.line ++ rest) =
      some (⟨[], s.key⟩, '=' :: ' ' :: (s.written ++ '\n' :: rest)) := by
  have hkey : key? (s.line ++ rest) =
      some (s.key, ' ' :: '=' :: ' ' :: (s.written ++ '\n' :: rest)) := by
    rw [line_append, s.isBareKey.key?_append rfl]
  rw [nestingLimit, keyPath?, skipBlanks_line, hkey]
  rfl

theorem skipBlanks_written : skipBlanks (' ' :: (s.written ++ rest)) = s.written ++ rest := by
  obtain ⟨c, cs, hwritten, hc⟩ := s.written_head
  rw [hwritten]
  exact skipBlanks_cons hc

theorem keyValue?_line :
    keyValue? (value? nestingLimit) (s.line ++ rest) = some ((⟨[], s.key⟩, s.value), '\n' :: rest) := by
  have hread : value? nestingLimit (skipBlanks (' ' :: (s.written ++ '\n' :: rest))) =
      some (s.value, '\n' :: rest) := by
    rw [skipBlanks_written, s.read]
  simp only [keyValue?, keyPath?_line, Option.bind_eq_bind, Option.bind_some, hread]
  rfl

theorem statement?_line : statement? (s.line ++ rest) = some (s.statement, '\n' :: rest) := by
  obtain ⟨c, cs, hc, heq⟩ := s.exists_line_append_eq rest
  have hentry := s.keyValue?_line rest
  have hbracket : c ≠ '[' := isKeyChar_ne hc rfl
  rw [statement?, skipBlanks_line]
  rw [heq] at hentry ⊢
  split
  case h_1 hcs => exact absurd (List.cons.inj hcs).1 hbracket
  case h_2 hcs => exact absurd (List.cons.inj hcs).1 hbracket
  case h_3 => rw [hentry]; rfl

/-- A line that sets a key is not skipped. -/
theorem lineEnd?_line : lineEnd? (s.line ++ rest) = none := by
  obtain ⟨c, cs, hc, heq⟩ := s.exists_line_append_eq rest
  have hhash : c ≠ '#' := isKeyChar_ne hc rfl
  have hbreak : lineBreak? (c :: cs) = none :=
    lineBreak?_cons (isKeyChar_ne hc rfl) (isKeyChar_ne hc rfl)
  rw [lineEnd?, skipBlanks_line, heq]
  simp [hhash, hbreak]

end Setting

/-! ## Documents -/

/-- The lines of some settings. -/
def document (settings : List Setting) : List Char := settings.flatMap Setting.line

theorem document_cons (s : Setting) (settings : List Setting) :
    document (s :: settings) = s.line ++ document settings :=
  List.flatMap_cons

theorem statements?_document {settings : List Setting} {bound : Nat} (h : settings.length ≤ bound) :
    statements? bound (document settings) = some (settings.map Setting.statement) := by
  induction settings generalizing bound with
  | nil => cases bound <;> rfl
  | cons s settings ih =>
      cases bound with
      | zero => cases h
      | succ bound =>
          have hrest := ih (Nat.le_of_succ_le_succ h)
          have hbreak : lineEnd? ('\n' :: document settings) = some (document settings) := rfl
          have hnone := s.lineEnd?_line (document settings)
          have hstatement := s.statement?_line (document settings)
          obtain ⟨c, cs, -, heq⟩ := s.exists_line_append_eq (document settings)
          rw [heq] at hnone hstatement
          rw [document_cons, heq, statements?.eq_def]
          simp [hnone, hstatement, hbreak, hrest]

theorem add?_statement {entries : Entries} {s : Setting} (h : entries.lookup s.key = none) :
    PartialDocument.add? ⟨entries, []⟩ s.statement = some ⟨entries ++ [s.entry], []⟩ := by
  simp [PartialDocument.add?, Setting.statement, Entries.alter?, Entries.addEntry?, Entries.add?, h,
    Setting.entry]

theorem foldlM_add?_settings {settings : List Setting} {entries : Entries}
    (h : (entries.map Prod.fst ++ settings.map Setting.key).Nodup) :
    (settings.map Setting.statement).foldlM PartialDocument.add? ⟨entries, []⟩ =
      some ⟨entries ++ settings.map Setting.entry, []⟩ := by
  induction settings generalizing entries with
  | nil => simp
  | cons s settings ih =>
      have hfree : entries.lookup s.key = none := by
        have hdisjoint := (List.nodup_append.mp h).2.2
        rw [List.lookup_eq_none_iff]
        intro entry hentry
        have hne := hdisjoint entry.1 (List.mem_map_of_mem hentry) s.key List.mem_cons_self
        simpa using hne.symm
      have hnodup : ((entries ++ [s.entry]).map Prod.fst ++ settings.map Setting.key).Nodup := by
        simpa [Setting.entry] using h
      rw [List.map_cons, List.foldlM_cons, add?_statement hfree]
      simpa using ih hnodup

theorem length_le_document (settings : List Setting) :
    settings.length ≤ (document settings).length := by
  induction settings with
  | nil => exact Nat.le_refl 0
  | cons s settings ih =>
      obtain ⟨c, cs, -, heq⟩ := s.exists_line_append_eq []
      have hline : s.line.length = cs.length + 1 := by
        rw [← List.append_nil s.line, heq, List.length_cons]
      rw [document_cons, List.length_append, List.length_cons]
      omega

/-- A document of lines with different keys has their entries. -/
theorem entriesOf?_document {settings : List Setting} (h : (settings.map Setting.key).Nodup) :
    entriesOf? (String.ofList (document settings)) = some (settings.map Setting.entry) := by
  have hread : (statements? (document settings).length (document settings)).bind
      Entries.ofStatements? = some (settings.map Setting.entry) := by
    rw [statements?_document (length_le_document settings), Option.bind_some, Entries.ofStatements?,
      PartialDocument.empty, @foldlM_add?_settings settings [] h]
    rfl
  rw [entriesOf?, String.toList_ofList]
  cases settings with
  | nil => exact hread
  | cons s settings =>
      obtain ⟨c, cs, hc, heq⟩ := s.exists_line_append_eq (document settings)
      have hmark : c ≠ '\ufeff' := isKeyChar_ne hc rfl
      rw [document_cons, heq] at hread ⊢
      split <;> simp_all

/-! ## Settings of a builder -/

theorem NamingPolicy.ofText?_text (policy : NamingPolicy) : ofText? policy.text = some policy := by
  cases policy <;> rfl

namespace Config

def textSetting (key s : String) (hkey : IsBareKey key) : Setting where
  key := key
  written := writeText s
  value := .string s
  isBareKey := hkey
  written_head := by
    obtain ⟨cs, hcs | hcs⟩ := writeText_eq_cons s
    · exact ⟨_, cs, hcs, rfl⟩
    · exact ⟨_, cs, hcs, rfl⟩
  read _ := value?_writeText s

def boolSetting (key : String) (b : Bool) (hkey : IsBareKey key) : Setting where
  key := key
  written := (toString b).toList
  value := .boolean b
  isBareKey := hkey
  written_head := by cases b <;> exact ⟨_, _, rfl, rfl⟩
  read _ := value?_toString b

def settings (c : Config) : List Setting :=
  [textSetting "naming" c.naming.text (by decide),
    textSetting "suffix_separator" c.suffixSeparator (by decide),
    boolSetting "global_symbol_attr" c.recordSymbol (by decide),
    textSetting "binding_var_prefix" c.ordinaryStem (by decide),
    textSetting "dataflow_var_prefix" c.dataflowStem (by decide)]

theorem toToml_eq (c : Config) : c.toToml = String.ofList (document c.settings) := by
  simp [toToml, document, settings, Setting.line, textSetting, boolSetting]

theorem ofEntries_settings (c : Config) :
    ofEntries (c.settings.map Setting.entry) = .ok c := by
  simp [ofEntries, settings, textSetting, boolSetting, Setting.entry, set, NamingPolicy.ofValue,
    NamingPolicy.ofName, NamingPolicy.ofText?_text, textOf, boolOf, bind, Except.bind, pure, Except.pure]

/-- Whatever texts the settings hold, they are read back from the document that gives them. -/
theorem ofToml_toToml (c : Config) : ofToml c.toToml = .ok c := by
  have hkeys : (c.settings.map Setting.key).Nodup := by simp [settings, textSetting, boolSetting]
  rw [ofToml, toToml_eq, entriesOf?_document hkeys]
  exact c.ofEntries_settings

end Config

end ScopedBuilder
