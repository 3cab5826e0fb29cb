import ChainShell.Proofs.Chain.Reading

namespace ChainShell

/-- A command whose name and arguments are words. -/
def Command.Plain (command : Command) : Prop :=
  ∀ word ∈ command.name :: command.args, Grammar.Word word

/-- An element whose commands are plain. -/
def Element.Plain : Element → Prop
  | .single command => command.Plain
  | .piped first second => first.Plain ∧ second.Plain

namespace Grammar

theorem Arguments.words_of_mem {rest : Text} {args : List Text} (arguments : Arguments rest args) :
    ∀ word ∈ args, Word word := by
  induction arguments with
  | nil => simp
  | cons _ word _ ih => exact List.forall_mem_cons.2 ⟨word, ih⟩

theorem Command.plain {text : Text} {command : ChainShell.Command} (derived : Command text command) :
    command.Plain := by
  obtain ⟨_, name, arguments, _⟩ := derived
  exact List.forall_mem_cons.2 ⟨name, arguments.words_of_mem⟩

theorem Segment.plain {text : Text} {element : Element} (segment : Segment text element) :
    element.Plain := by
  cases segment with
  | single command => exact command.plain
  | piped first second => exact ⟨first.plain, second.plain⟩

theorem Segments.plain {text : Text} {elements : List Element} (segments : Segments text elements) :
    ∀ element ∈ elements, element.Plain := by
  induction segments with
  | nil => simp
  | cons segment _ ih => exact List.forall_mem_cons.2 ⟨segment.plain, ih⟩

theorem Line.plain {text : Text} {elements : List Element} (line : Line text elements) :
    ∀ element ∈ elements, element.Plain := by
  cases line with
  | blank => simp
  | chain segment further => exact List.forall_mem_cons.2 ⟨segment.plain, further.plain⟩

theorem blanks_space : Blanks [' '] := .cons (by decide) .nil

theorem gap_space : Gap [' '] := .intro (by decide) .nil

theorem Command.prepend_blanks {blanks text : Text} {command : ChainShell.Command}
    (run : Blanks blanks) (derived : Command text command) : Command (blanks ++ text) command := by
  obtain ⟨before, name, arguments, after⟩ := derived
  rw [← List.append_assoc]
  exact .intro (run.append before) name arguments after

theorem Segment.prepend_blanks {blanks text : Text} {element : Element} (run : Blanks blanks)
    (derived : Segment text element) : Segment (blanks ++ text) element := by
  cases derived with
  | single command => exact .single (command.prepend_blanks run)
  | piped first second =>
    rw [← List.append_assoc]
    exact .piped (first.prepend_blanks run) second

theorem arguments_flatMap {args : List Text} (words : ∀ word ∈ args, Word word) :
    Arguments (args.flatMap (' ' :: ·)) args := by
  induction args with
  | nil => exact .nil
  | cons arg rest ih =>
    rw [List.forall_mem_cons] at words
    exact .cons gap_space words.1 (ih words.2)

end Grammar

theorem Command.text_eq (command : Command) :
    command.text = command.name ++ command.args.flatMap (' ' :: ·) :=
  Text.join_cons [' '] command.name command.args

theorem Command.Plain.derives {command : Command} (plain : command.Plain) :
    Grammar.Command command.text command := by
  rw [Plain, List.forall_mem_cons] at plain
  have whole := Grammar.Command.intro .nil plain.1 (Grammar.arguments_flatMap plain.2) .nil
  rw [Command.text_eq]
  simpa only [List.nil_append, List.append_nil] using whole

theorem Element.Plain.derives {element : Element} (plain : element.Plain) :
    Grammar.Segment element.text element := by
  cases element with
  | single command => exact .single (Command.Plain.derives plain)
  | piped first second =>
    have left := (Command.Plain.derives plain.1).append_blanks Grammar.blanks_space
    have right := (Command.Plain.derives plain.2).prepend_blanks Grammar.blanks_space
    have whole := Grammar.Segment.piped left right
    simpa only [Element.text, List.append_assoc, List.cons_append, List.nil_append] using whole

/-- The texts of elements behind semicolons, and blanks if one likes, are further segments. -/
theorem Grammar.segments_flatMap {blanks : Text} {elements : List Element} (run : Blanks blanks)
    (plain : ∀ element ∈ elements, element.Plain) :
    Segments (elements.flatMap fun element => ';' :: (blanks ++ element.text)) elements := by
  induction elements with
  | nil => exact .nil
  | cons element rest ih =>
    rw [List.forall_mem_cons] at plain
    rw [List.flatMap_cons, List.cons_append]
    exact .cons (plain.1.derives.prepend_blanks run) (ih plain.2)

namespace Chain

/-- The texts of elements on one line, with a separator between neighbours. -/
def text (between : Text) (elements : List Element) : Text :=
  Text.join between (elements.map Element.text)

/-- A line as it is printed after it has been read. -/
def normalize (between line : Text) : Except ParseError Text :=
  (parse line).map (text between)

theorem plain_of_parse {line : Text} {elements : List Element} (read : parse line = .ok elements) :
    ∀ element ∈ elements, element.Plain :=
  (parse_eq_ok_iff_line.1 read).plain

/-- The text of a plain element is a line that holds it alone. -/
theorem parse_text {element : Element} (plain : element.Plain) : parse element.text = .ok [element] :=
  parse_eq_ok_iff_line.2 plain.derives.line

theorem text_injective {one other : Element} (plain : one.Plain) (plain' : other.Plain)
    (same : one.text = other.text) : one = other := by
  have read := parse_text plain
  rw [same, parse_text plain', Except.ok.injEq, List.singleton_inj] at read
  exact read.symm

theorem text_cons (between : Text) (element : Element) (elements : List Element) :
    text between (element :: elements) =
      element.text ++ elements.flatMap (fun later => between ++ later.text) := by
  rw [text, List.map_cons, Text.join_cons, List.flatMap_map]

section Separated

variable {blanks : Text} {elements : List Element}

/-- A printed line reads as what was printed, and so it does with one more semicolon. -/
theorem parse_text_close (run : Grammar.Blanks blanks) (plain : ∀ element ∈ elements, element.Plain)
    (nonempty : elements ≠ []) {close : Text} (closing : Grammar.Close close) :
    parse (text (';' :: blanks) elements ++ close) = .ok elements := by
  obtain ⟨element, rest, rfl⟩ := List.exists_cons_of_ne_nil nonempty
  rw [List.forall_mem_cons] at plain
  have line := Grammar.Line.chain plain.1.derives (Grammar.segments_flatMap run plain.2) closing .nil
  rw [List.append_nil, ← List.append_assoc] at line
  rw [text_cons, parse_eq_ok_iff_line]
  exact line

theorem parse_text_separated (run : Grammar.Blanks blanks)
    (plain : ∀ element ∈ elements, element.Plain) :
    parse (text (';' :: blanks) elements) = .ok elements := by
  by_cases nonempty : elements = []
  · rw [nonempty]
    rfl
  · have read := parse_text_close run plain nonempty .omitted
    rwa [List.append_nil] at read

theorem normalize_bind (run : Grammar.Blanks blanks) (between line : Text) :
    (normalize (';' :: blanks) line).bind (normalize between) = normalize between line := by
  cases read : parse line with
  | error e => simp only [normalize, read, Except.map, Except.bind]
  | ok elements =>
    simp only [normalize, read, Except.map, Except.bind, parse_text_separated run (plain_of_parse read)]

end Separated

/-- Printing and reading undo each other. What a line reads as is made of words; elements made of words
are what their line reads as, with or without blanks behind its semicolons and a semicolon at its end.
So elements are told apart by their texts, and a line that is normalised stays as it is. -/
theorem parse_inverts_text :
    (∀ line elements, parse line = .ok elements → ∀ element ∈ elements, element.Plain) ∧
      (∀ blanks elements, Grammar.Blanks blanks → (∀ element ∈ elements, Element.Plain element) →
        parse (text (';' :: blanks) elements) = .ok elements ∧
          (elements ≠ [] → parse (text (';' :: blanks) elements ++ [';']) = .ok elements)) ∧
      (∀ line elements, parse line = .ok elements →
        ∀ element ∈ elements, parse element.text = .ok [element]) ∧
      (∀ line line' elements elements', parse line = .ok elements → parse line' = .ok elements' →
        ∀ element ∈ elements, ∀ element' ∈ elements', element.text = element'.text → element = element') ∧
      ∀ blanks line, Grammar.Blanks blanks →
        (normalize (';' :: blanks) line).bind (normalize (';' :: blanks)) =
          normalize (';' :: blanks) line := by
  refine ⟨fun line elements => plain_of_parse, ?_, ?_, ?_, fun blanks line run => normalize_bind run _ line⟩
  · intro blanks elements run plain
    exact ⟨parse_text_separated run plain, fun nonempty => parse_text_close run plain nonempty .semicolon⟩
  · intro line elements read element inside
    exact parse_text (plain_of_parse read element inside)
  · intro line line' elements elements' read read' element inside element' inside' same
    exact text_injective (plain_of_parse read element inside) (plain_of_parse read' element' inside') same

theorem parse_inverts_text_listing :
    let line := "ls\t-l ;cat  a|wc; ".toList
    let elements := [Element.single ⟨"ls".toList, ["-l".toList]⟩,
      .piped ⟨"cat".toList, [['a']]⟩ ⟨"wc".toList, []⟩]
    parse line = .ok elements ∧ (∀ element ∈ elements, parse element.text = .ok [element]) ∧
      parse "ls -l; cat a | wc;".toList = .ok elements ∧
      normalize [';', ' '] "ls -l; cat a | wc".toList = .ok "ls -l; cat a | wc".toList := by
  intro line elements
  have read : parse line = .ok elements := by decide
  obtain ⟨plain, printed, alone, -, -⟩ := parse_inverts_text
  have again := printed [' '] elements Grammar.blanks_space (plain line elements read)
  refine ⟨read, alone line elements read, again.2 (by simp [elements]), ?_⟩
  exact congrArg (Except.map (text [';', ' '])) again.1

end Chain

/-- A text without blanks other than the space. -/
def Text.SingleLine (text : Text) : Prop :=
  ∀ c ∈ text, isBlank c = true → c = ' '

namespace Grammar

theorem Word.singleLine {word : Text} (derived : Word word) : word.SingleLine := by
  intro c inside blank
  rw [derived.solid c inside] at blank
  cases blank

end Grammar

theorem Command.Plain.singleLine {command : Command} (plain : command.Plain) : command.text.SingleLine := by
  rw [Plain, List.forall_mem_cons] at plain
  rw [Command.text_eq]
  intro c inside blank
  rcases List.mem_append.1 inside with named | further
  · exact plain.1.singleLine c named blank
  · obtain ⟨word, listed, within⟩ := List.mem_flatMap.1 further
    rcases List.mem_cons.1 within with space | solid
    · exact space
    · exact (plain.2 word listed).singleLine c solid blank

namespace Element.Plain

variable {element : Element}

theorem singleLine (plain : element.Plain) : element.text.SingleLine := by
  cases element with
  | single command => exact Command.Plain.singleLine plain
  | piped first second =>
    obtain ⟨left, right⟩ := plain
    intro c inside blank
    simp only [Element.text, List.mem_append, List.mem_cons, List.not_mem_nil, or_false] at inside
    rcases inside with (first | rfl | rfl | rfl) | second
    · exact left.singleLine c first blank
    · rfl
    · cases blank
    · rfl
    · exact right.singleLine c second blank

end Element.Plain

end ChainShell
