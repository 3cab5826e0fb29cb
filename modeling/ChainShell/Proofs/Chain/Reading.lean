import ChainShell.Proofs.Chain.Grammar
import ChainShell.Proofs.Chain.Segments

namespace ChainShell

namespace Grammar

theorem Arguments.head_blank {rest after : Text} {args : List Text} (arguments : Arguments rest args)
    (blanks : Blanks after) : ∀ c, (rest ++ after).head? = some c → Text.isBlank c = true := by
  intro c starts
  cases arguments with
  | nil => exact blanks_iff.1 blanks c (List.mem_of_head? starts)
  | cons gap =>
    obtain ⟨blank, _⟩ := gap
    cases starts
    exact blank

theorem Arguments.words {rest after : Text} {args : List Text} (arguments : Arguments rest args)
    (blanks : Blanks after) : Text.words (rest ++ after) = args := by
  induction arguments with
  | nil => exact Text.words_of_blanks (blanks_iff.1 blanks)
  | cons gap word arguments ih =>
    rw [List.append_assoc, List.append_assoc, Text.words_append_left (blanks_iff.1 gap.blanks),
      Text.words_append_of_word (word_iff.1 word).1 word.solid (arguments.head_blank blanks), ih]

theorem Command.words {text : Text} {command : ChainShell.Command} (derived : Command text command) :
    Text.words text = command.name :: command.args := by
  obtain ⟨before, name, arguments, after⟩ := derived
  rw [Text.words_append_left (blanks_iff.1 before),
    Text.words_append_of_word (word_iff.1 name).1 name.solid (arguments.head_blank after),
    arguments.words after]

theorem Word.of_solid {text : Text} (free : Unseparated text) (nonempty : text ≠ [])
    (solid : ∀ c ∈ text, Text.isBlank c = false) : Word text := by
  refine word_iff.2 ⟨nonempty, fun c inside => ⟨solid c inside, ?_, ?_⟩⟩
  · exact fun same => free.1 (same ▸ inside)
  · exact fun same => free.2 (same ▸ inside)

/-- What stands behind a word is further words and blanks. -/
theorem exists_arguments (text : Text) (free : Unseparated text)
    (starts : ∀ c, text.head? = some c → Text.isBlank c = true) :
    ∃ rest after, text = rest ++ after ∧ Arguments rest (Text.words text) ∧ Blanks after := by
  by_cases blank : ∀ c ∈ text, Text.isBlank c = true
  · rw [Text.words_of_blanks blank]
    exact ⟨[], text, rfl, .nil, blanks_iff.2 blank⟩
  · obtain ⟨gap, word, tail, whole, blankGap, nonempty, solid, ends⟩ := Text.exists_word blank
    rw [whole] at free starts ⊢
    obtain ⟨_, freeRest⟩ := unseparated_append.1 free
    obtain ⟨freeWord, freeTail⟩ := unseparated_append.1 freeRest
    rw [Text.words_append_left blankGap, Text.words_append_of_word nonempty solid ends]
    cases gap with
    | nil =>
      -- without a gap the text would begin with the word
      obtain ⟨c, others, rfl⟩ := List.exists_cons_of_ne_nil nonempty
      have kept := solid c List.mem_cons_self
      rw [starts c rfl] at kept
      cases kept
    | cons c blanks =>
      rw [List.forall_mem_cons] at blankGap
      obtain ⟨rest, after, behind, arguments, blanksAfter⟩ := exists_arguments tail freeTail ends
      refine ⟨(c :: blanks) ++ (word ++ rest), after, by simp [← behind], ?_, blanksAfter⟩
      exact .cons (.intro blankGap.1 (blanks_iff.2 blankGap.2)) (.of_solid freeWord nonempty solid)
        arguments
termination_by text.length
decreasing_by
  have counted := List.length_pos_iff.2 nonempty
  have total := congrArg List.length whole
  simp only [List.length_append] at total
  omega

end Grammar

open Grammar in
theorem Command.parse_eq_ok_iff_derives {text : Text} (free : Unseparated text) {command : Command} :
    Command.parse text = .ok command ↔ Grammar.Command text command := by
  rw [Command.parse_eq_ok_iff]
  constructor
  · intro cut
    have solid : ¬ ∀ c ∈ text, Text.isBlank c = true := by
      intro blank
      rw [Text.words_of_blanks blank] at cut
      cases cut
    obtain ⟨before, word, tail, rfl, blank, nonempty, solidWord, ends⟩ := Text.exists_word solid
    obtain ⟨_, freeRest⟩ := unseparated_append.1 free
    obtain ⟨freeWord, freeTail⟩ := unseparated_append.1 freeRest
    rw [Text.words_append_left blank, Text.words_append_of_word nonempty solidWord ends] at cut
    obtain ⟨rest, after, rfl, arguments, blanks⟩ := exists_arguments tail freeTail ends
    obtain ⟨name, args⟩ := command
    cases cut
    exact .intro (blanks_iff.2 blank) (.of_solid freeWord nonempty solidWord) arguments blanks
  · exact fun derived => derived.words

open Grammar in
theorem Element.parse_eq_ok_iff_derives {segment : Text} (free : ';' ∉ segment) {element : Element} :
    Element.parse segment = .ok element ↔ Segment segment element := by
  have unseparated (piece : Text) (member : piece ∈ Text.splitOn '|' segment)
      (within : ∀ c ∈ piece, c ∈ segment) : Unseparated piece :=
    ⟨fun inside => free (within _ inside), Text.not_mem_of_mem_splitOn member⟩
  have whole := Text.join_splitOn '|' segment
  rw [Element.parse_eq_ok_iff]
  constructor
  · rintro (⟨text, command, cut, parsed, rfl⟩ | ⟨left, right, first, second, cut, parsedLeft, parsedRight, rfl⟩)
    · rw [cut, Text.join_singleton] at whole
      have plain := unseparated text (by simp [cut]) (by simp [whole])
      rw [← whole]
      exact .single ((Command.parse_eq_ok_iff_derives plain).1 parsed)
    · rw [cut, Text.join_cons_cons, Text.join_singleton, List.singleton_append] at whole
      have plainLeft := unseparated left (by simp [cut]) (by simp +contextual [← whole])
      have plainRight := unseparated right (by simp [cut]) (by simp +contextual [← whole])
      rw [← whole]
      exact .piped ((Command.parse_eq_ok_iff_derives plainLeft).1 parsedLeft)
        ((Command.parse_eq_ok_iff_derives plainRight).1 parsedRight)
  · intro derived
    cases derived with
    | single command =>
      exact .inl ⟨segment, _, Text.splitOn_of_not_mem command.unseparated.2,
        (Command.parse_eq_ok_iff_derives command.unseparated).2 command, rfl⟩
    | @piped left right first second firstDerived secondDerived =>
      refine .inr ⟨left, right, first, second, ?_,
        (Command.parse_eq_ok_iff_derives firstDerived.unseparated).2 firstDerived,
        (Command.parse_eq_ok_iff_derives secondDerived.unseparated).2 secondDerived, rfl⟩
      rw [Text.splitOn_append_cons_of_not_mem firstDerived.unseparated.2,
        Text.splitOn_of_not_mem secondDerived.unseparated.2]

namespace Grammar

theorem Segment.solid {text : Text} {element : Element} (segment : Segment text element) :
    ¬ ∀ c ∈ text, Text.isBlank c = true := by
  intro blank
  cases segment with
  | single command =>
    have none := command.words
    rw [Text.words_of_blanks blank] at none
    cases none
  | piped _ _ =>
    have bar := blank '|' (by simp)
    exact absurd bar (by decide)

theorem Segment.parse {text : Text} {element : Element} (segment : Segment text element) :
    Element.parse text = .ok element :=
  (Element.parse_eq_ok_iff_derives segment.not_mem).2 segment

theorem Segments.parsePieces {text rest close after : Text} {element : Element} {elements : List Element}
    (segment : Segment text element) (further : Segments rest elements) (ending : Close close)
    (blanks : Blanks after) :
    Chain.parsePieces (Text.splitOn ';' (text ++ (rest ++ (close ++ after)))) = .ok (element :: elements) := by
  induction further generalizing text element with
  | nil =>
    cases ending with
    | omitted =>
      have widened := segment.append_blanks blanks
      rw [List.nil_append, List.nil_append, Text.splitOn_of_not_mem widened.not_mem,
        Chain.parsePieces_singleton_eq_ok_iff widened.solid]
      exact ⟨element, widened.parse, rfl⟩
    | semicolon =>
      rw [List.nil_append, List.singleton_append, Text.splitOn_append_cons_of_not_mem segment.not_mem,
        Text.splitOn_of_not_mem blanks.unseparated.1, Chain.parsePieces_cons_cons_eq_ok_iff]
      exact ⟨element, [], segment.parse, Chain.parsePieces_blank (blanks_iff.1 blanks), rfl⟩
  | @cons next others first later further further' ih =>
    have shape : text ++ (';' :: (next ++ others) ++ (close ++ after)) =
        text ++ ';' :: (next ++ (others ++ (close ++ after))) := by simp
    have inner := ih further
    rw [shape, Text.splitOn_append_cons_of_not_mem segment.not_mem]
    obtain ⟨piece, pieces, cut⟩ :=
      List.exists_cons_of_ne_nil (Text.splitOn_ne_nil ';' (next ++ (others ++ (close ++ after))))
    rw [cut] at inner ⊢
    rw [Chain.parsePieces_cons_cons_eq_ok_iff]
    exact ⟨element, first :: later, segment.parse, inner, rfl⟩

theorem line_join {pieces : List Text} (free : ∀ piece ∈ pieces, ';' ∉ piece) (nonempty : pieces ≠ [])
    {elements : List Element} (read : Chain.parsePieces pieces = .ok elements) :
    Line (Text.join [';'] pieces) elements := by
  induction pieces generalizing elements with
  | nil => exact absurd rfl nonempty
  | cons piece rest ih =>
    rw [List.forall_mem_cons] at free
    cases rest with
    | nil =>
      rw [Text.join_singleton]
      by_cases blank : ∀ c ∈ piece, Text.isBlank c = true
      · rw [Chain.parsePieces_blank blank, Except.ok.injEq] at read
        rw [← read]
        exact .blank (blanks_iff.2 blank)
      · obtain ⟨element, parsed, rfl⟩ := (Chain.parsePieces_singleton_eq_ok_iff blank).1 read
        exact ((Element.parse_eq_ok_iff_derives free.1).1 parsed).line
    | cons second more =>
      obtain ⟨element, others, parsed, readRest, rfl⟩ := Chain.parsePieces_cons_cons_eq_ok_iff.1 read
      rw [Text.join_cons_cons, List.singleton_append]
      exact ((Element.parse_eq_ok_iff_derives free.1).1 parsed).line_cons
        (ih free.2 (List.cons_ne_nil _ _) readRest)

end Grammar

namespace Chain

theorem parse_eq_ok_iff_line {line : Text} {elements : List Element} :
    parse line = .ok elements ↔ Grammar.Line line elements := by
  rw [parse_eq_ok_iff]
  constructor
  · intro read
    have derived := Grammar.line_join (fun _ member => Text.not_mem_of_mem_splitOn member)
      (Text.splitOn_ne_nil ';' line) read
    rwa [Text.join_splitOn] at derived
  · intro derived
    cases derived with
    | blank blanks =>
      rw [Text.splitOn_of_not_mem blanks.unseparated.1]
      exact parsePieces_blank (Grammar.blanks_iff.1 blanks)
    | chain segment further ending blanks => exact further.parsePieces segment ending blanks

/-- Reading accepts exactly the lines of the grammar and gives the one list of elements that such a
line derives; any other line is an error. -/
theorem parse_reads_grammar (line : Text) :
    (∀ elements, parse line = .ok elements ↔ Grammar.Line line elements) ∧
      (∀ one other, Grammar.Line line one → Grammar.Line line other → one = other) ∧
      ((¬ ∃ elements, Grammar.Line line elements) → ∃ error : ParseError, parse line = .error error) := by
  refine ⟨fun elements => parse_eq_ok_iff_line, ?_, ?_⟩
  · intro one other derived derived'
    have read := parse_eq_ok_iff_line.2 derived
    rw [parse_eq_ok_iff_line.2 derived', Except.ok.injEq] at read
    exact read.symm
  · intro underivable
    cases read : parse line with
    | error error => exact ⟨error, rfl⟩
    | ok elements => exact absurd ⟨elements, parse_eq_ok_iff_line.1 read⟩ underivable

example : parse " a  b ;c|d ; ".toList =
    .ok [.single ⟨['a'], [['b']]⟩, .piped ⟨['c'], []⟩ ⟨['d'], []⟩] := by decide

example : parse " ; ".toList = .error .noCommand := by decide

end Chain

end ChainShell
