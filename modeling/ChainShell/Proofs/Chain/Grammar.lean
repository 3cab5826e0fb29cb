import ChainShell.Chain
import ChainShell.Proofs.Number.Numeral
import Mathlib.Tactic.Tauto

namespace ChainShell

namespace Grammar

/-- A run of blanks, possibly none. -/
inductive Blanks : Text → Prop
  | nil : Blanks []
  | cons {c : Char} {rest : Text} : Text.isBlank c = true → Blanks rest → Blanks (c :: rest)

/-- One blank or more. -/
inductive Gap : Text → Prop
  | intro {c : Char} {rest : Text} : Text.isBlank c = true → Blanks rest → Gap (c :: rest)

/-- The characters of words: neither blanks nor separators. -/
def IsWordChar (c : Char) : Prop :=
  Text.isBlank c = false ∧ c ≠ ';' ∧ c ≠ '|'

/-- One such character or more. -/
inductive Word : Text → Prop
  | one {c : Char} : IsWordChar c → Word [c]
  | cons {c : Char} {rest : Text} : IsWordChar c → Word rest → Word (c :: rest)

/-- Further words, each behind a gap. -/
inductive Arguments : Text → List Text → Prop
  | nil : Arguments [] []
  | cons {gap word rest : Text} {args : List Text} : Gap gap → Word word → Arguments rest args →
      Arguments (gap ++ (word ++ rest)) (word :: args)

/-- Words between blanks; the first is the name. -/
inductive Command : Text → ChainShell.Command → Prop
  | intro {before name rest after : Text} {args : List Text} : Blanks before → Word name →
      Arguments rest args → Blanks after → Command (before ++ (name ++ (rest ++ after))) ⟨name, args⟩

/-- One command, or two with a bar between them. -/
inductive Segment : Text → Element → Prop
  | single {text : Text} {command : ChainShell.Command} : Command text command →
      Segment text (.single command)
  | piped {left right : Text} {first second : ChainShell.Command} : Command left first →
      Command right second → Segment (left ++ '|' :: right) (.piped first second)

/-- Further segments, each behind a semicolon. -/
inductive Segments : Text → List Element → Prop
  | nil : Segments [] []
  | cons {text rest : Text} {element : Element} {elements : List Element} : Segment text element →
      Segments rest elements → Segments (';' :: (text ++ rest)) (element :: elements)

/-- The semicolon at the end, which may be left out. -/
inductive Close : Text → Prop
  | omitted : Close []
  | semicolon : Close [';']

/-- A line: blanks alone, or segments and what may follow the last. -/
inductive Line : Text → List Element → Prop
  | blank {text : Text} : Blanks text → Line text []
  | chain {text rest close after : Text} {element : Element} {elements : List Element} :
      Segment text element → Segments rest elements → Close close → Blanks after →
      Line (text ++ (rest ++ (close ++ after))) (element :: elements)

theorem blanks_iff {text : Text} : Blanks text ↔ ∀ c ∈ text, Text.isBlank c = true := by
  constructor
  · intro blanks
    induction blanks with
    | nil => simp
    | cons blank _ ih => exact List.forall_mem_cons.2 ⟨blank, ih⟩
  · intro blank
    induction text with
    | nil => exact .nil
    | cons c rest ih =>
      rw [List.forall_mem_cons] at blank
      exact .cons blank.1 (ih blank.2)

theorem word_iff {text : Text} : Word text ↔ text ≠ [] ∧ ∀ c ∈ text, IsWordChar c := by
  constructor
  · intro word
    induction word with
    | one solid => simpa using solid
    | cons solid _ ih => exact ⟨List.cons_ne_nil _ _, List.forall_mem_cons.2 ⟨solid, ih.2⟩⟩
  · rintro ⟨nonempty, solid⟩
    induction text with
    | nil => exact absurd rfl nonempty
    | cons c rest ih =>
      rw [List.forall_mem_cons] at solid
      cases rest with
      | nil => exact .one solid.1
      | cons d tail => exact .cons solid.1 (ih (List.cons_ne_nil _ _) solid.2)

theorem Blanks.append {one other : Text} (first : Blanks one) (second : Blanks other) :
    Blanks (one ++ other) := by
  rw [blanks_iff] at *
  exact List.forall_mem_append.2 ⟨first, second⟩

theorem Gap.blanks {text : Text} (gap : Gap text) : Blanks text := by
  obtain ⟨blank, rest⟩ := gap
  exact .cons blank rest

theorem Word.solid {text : Text} (word : Word text) : ∀ c ∈ text, Text.isBlank c = false :=
  fun c inside => ((word_iff.1 word).2 c inside).1

theorem isWordChar_of_isDigit {c : Char} (digit : Numeral.isDigit c = true) : Grammar.IsWordChar c := by
  rw [Numeral.isDigit, Bool.and_eq_true, decide_eq_true_iff, decide_eq_true_iff] at digit
  refine ⟨?_, ?_, ?_⟩
  · simp only [Text.isBlank, Bool.or_eq_false_iff, Bool.and_eq_false_iff, decide_eq_false_iff_not,
      beq_eq_false_iff_ne]
    omega
  · rintro rfl
    exact absurd digit (by decide)
  · rintro rfl
    exact absurd digit (by decide)

theorem Word.of_digits {digits : Text} (nonempty : digits ≠ []) (decimal : digits.all Numeral.isDigit = true) :
    Word digits :=
  word_iff.2 ⟨nonempty, fun c inside => isWordChar_of_isDigit (List.all_eq_true.1 decimal c inside)⟩

/-- A numeral is one word of a line. -/
theorem Word.of_spells {text : Text} {code : Int} (spells : Numeral.Spells text code) : Word text := by
  have ofDecimal {digits : Text} {n : Nat} (decimal : Numeral.Decimal digits n) : Word digits := by
    obtain ⟨nonempty, decimal, -⟩ := Numeral.decimal_iff.1 decimal
    exact .of_digits nonempty decimal
  cases spells with
  | unsigned decimal => exact ofDecimal decimal
  | plus decimal => exact .cons ⟨by decide, by decide, by decide⟩ (ofDecimal decimal)
  | minus decimal => exact .cons ⟨by decide, by decide, by decide⟩ (ofDecimal decimal)

/-- What has no separator in it stands within one command. -/
def Unseparated (text : Text) : Prop :=
  ';' ∉ text ∧ '|' ∉ text

theorem unseparated_append {one other : Text} :
    Unseparated (one ++ other) ↔ Unseparated one ∧ Unseparated other := by
  simp only [Unseparated, List.mem_append]
  tauto

theorem Blanks.unseparated {text : Text} (blanks : Blanks text) : Unseparated text := by
  rw [blanks_iff] at blanks
  constructor <;> intro inside <;> exact absurd (blanks _ inside) (by decide)

theorem Word.unseparated {text : Text} (word : Word text) : Unseparated text := by
  have solid := (word_iff.1 word).2
  exact ⟨fun inside => (solid _ inside).2.1 rfl, fun inside => (solid _ inside).2.2 rfl⟩

theorem Arguments.unseparated {text : Text} {args : List Text} (arguments : Arguments text args) :
    Unseparated text := by
  induction arguments with
  | nil => exact ⟨List.not_mem_nil, List.not_mem_nil⟩
  | cons gap word _ ih =>
    exact unseparated_append.2 ⟨gap.blanks.unseparated, unseparated_append.2 ⟨word.unseparated, ih⟩⟩

theorem Command.unseparated {text : Text} {command : ChainShell.Command} (derived : Command text command) :
    Unseparated text := by
  obtain ⟨before, name, arguments, after⟩ := derived
  simp only [unseparated_append]
  exact ⟨before.unseparated, name.unseparated, arguments.unseparated, after.unseparated⟩

theorem Segment.not_mem {text : Text} {element : Element} (segment : Segment text element) :
    ';' ∉ text := by
  cases segment with
  | single command => exact command.unseparated.1
  | piped first second =>
    rw [List.mem_append, List.mem_cons]
    rintro (left | same | right)
    · exact first.unseparated.1 left
    · exact absurd same (by decide)
    · exact second.unseparated.1 right

theorem Command.append_blanks {text blanks : Text} {command : ChainShell.Command}
    (derived : Command text command) (run : Blanks blanks) : Command (text ++ blanks) command := by
  obtain ⟨before, name, arguments, after⟩ := derived
  simp only [List.append_assoc]
  exact .intro before name arguments (after.append run)

theorem Segment.append_blanks {text blanks : Text} {element : Element} (derived : Segment text element)
    (run : Blanks blanks) : Segment (text ++ blanks) element := by
  cases derived with
  | single command => exact .single (command.append_blanks run)
  | piped first second =>
    rw [List.append_assoc, List.cons_append]
    exact .piped first (second.append_blanks run)

theorem Segment.line {text : Text} {element : Element} (segment : Segment text element) :
    Line text [element] := by
  have whole := Line.chain segment .nil .omitted .nil
  rwa [List.nil_append, List.nil_append, List.append_nil] at whole

theorem Segment.line_cons {text rest : Text} {element : Element} {elements : List Element}
    (segment : Segment text element) (line : Line rest elements) :
    Line (text ++ ';' :: rest) (element :: elements) := by
  cases line with
  | blank blanks => exact .chain segment .nil .semicolon blanks
  | chain first further close after =>
    have whole := Line.chain segment (.cons first further) close after
    simpa only [List.cons_append, List.append_assoc] using whole

end Grammar

end ChainShell
