import ChainShell.Chain.Parser
import ChainShell.Proofs.Text.Lines

namespace ChainShell

section Except

variable {ε δ α β : Type} {wording : ε → δ}

theorem mapError_eq_ok_iff {result : Except ε α} {value : α} :
    result.mapError wording = .ok value ↔ result = .ok value := by
  cases result <;> simp [Except.mapError]

theorem mapError_bind (result : Except ε α) (next : α → Except ε β) :
    (result.bind next).mapError wording = (result.mapError wording).bind fun value =>
      (next value).mapError wording := by
  cases result <;> rfl

theorem mapError_map (result : Except ε α) (change : α → β) :
    (result.map change).mapError wording = (result.mapError wording).map change := by
  cases result <;> rfl

theorem mapError_eq_error_iff {result : Except ε α} {said : δ} :
    result.mapError wording = .error said ↔ ∃ error, result = .error error ∧ wording error = said := by
  cases result <;> simp [Except.mapError]

theorem map_eq_error_iff {result : Except ε α} {change : α → β} {error : ε} :
    result.map change = .error error ↔ result = .error error := by
  cases result <;> simp [Except.map]

end Except

theorem ParseError.message_tooManyStages_trim (segment : Text) :
    (tooManyStages (Text.trim segment)).message = (tooManyStages segment).message :=
  congrArg (fun shown => "expected one or two commands, got ".toList ++ Text.quote shown)
    (Text.trim_trim segment)

theorem Command.parse_eq_ok_iff {text : Text} {command : Command} :
    Command.parse text = .ok command ↔ Text.words text = command.name :: command.args := by
  obtain ⟨name, args⟩ := command
  rw [Command.parse]
  split <;> rename_i cut <;> simp [cut]

theorem Command.parse_eq_of_trim_eq {one other : Text} (same : Text.trim one = Text.trim other) :
    Command.parse one = Command.parse other := by
  rw [Command.parse, Command.parse, ← Text.words_trim one, same, Text.words_trim]

theorem Element.parse_eq_ok_iff {segment : Text} {element : Element} :
    Element.parse segment = .ok element ↔
      (∃ text command, Text.splitOn '|' segment = [text] ∧ Command.parse text = .ok command ∧
        element = .single command) ∨
      ∃ left right first second, Text.splitOn '|' segment = [left, right] ∧
        Command.parse left = .ok first ∧ Command.parse right = .ok second ∧
        element = .piped first second := by
  rw [Element.parse]
  split
  · rename_i text cut
    cases parsed : Command.parse text with
    | error e => simp [cut, parsed, Bind.bind, Except.bind]
    | ok command => simp [cut, parsed, Bind.bind, Except.bind, Pure.pure, Except.pure, eq_comm]
  · rename_i left right cut
    cases parsedLeft : Command.parse left with
    | error e => simp [cut, parsedLeft, Bind.bind, Except.bind]
    | ok first =>
      cases parsedRight : Command.parse right with
      | error e => simp [cut, parsedRight, Bind.bind, Except.bind]
      | ok second =>
        simp [cut, parsedLeft, parsedRight, Bind.bind, Except.bind, Pure.pure, Except.pure, eq_comm]
  · rename_i notOne notTwo
    constructor
    · intro read
      cases read
    · rintro (⟨text, _, cut, _⟩ | ⟨left, right, _, _, cut, _⟩)
      · exact absurd cut (notOne text)
      · exact absurd cut (notTwo left right)

/-- The blanks around a segment matter neither for its element nor for the wording of its error. -/
theorem Element.mapError_parse_trim (segment : Text) :
    (Element.parse (Text.trim segment)).mapError ParseError.message =
      (Element.parse segment).mapError ParseError.message := by
  have pieces := Text.map_trim_splitOn_trim (by decide : Text.isBlank '|' = false) segment
  rw [Element.parse, Element.parse]
  generalize Text.splitOn '|' (Text.trim segment) = trimmed at pieces ⊢
  generalize Text.splitOn '|' segment = whole at pieces ⊢
  rcases trimmed with _ | ⟨first, _ | ⟨second, _ | ⟨third, more⟩⟩⟩ <;>
    rcases whole with _ | ⟨first', _ | ⟨second', _ | ⟨third', more'⟩⟩⟩ <;>
    simp only [List.map_nil, List.map_cons, List.cons.injEq, reduceCtorEq, and_false,
      and_true] at pieces
  · exact congrArg Except.error (ParseError.message_tooManyStages_trim segment)
  · simp [Command.parse_eq_of_trim_eq pieces]
  · simp [Command.parse_eq_of_trim_eq pieces.1, Command.parse_eq_of_trim_eq pieces.2]
  · exact congrArg Except.error (ParseError.message_tooManyStages_trim segment)

theorem Element.parse_trim_eq_ok_iff (segment : Text) {element : Element} :
    Element.parse (Text.trim segment) = .ok element ↔ Element.parse segment = .ok element := by
  rw [← mapError_eq_ok_iff, Element.mapError_parse_trim, mapError_eq_ok_iff]

namespace Chain

theorem parseSegments_cons (segment : Text) (rest : List Text) :
    parseSegments (segment :: rest) =
      (Element.parse segment).bind fun element => (parseSegments rest).map (element :: ·) := by
  rw [parseSegments]
  cases Element.parse segment with
  | error e => rfl
  | ok element => cases parseSegments rest <;> rfl

theorem mapError_parseSegments_map_trim (segments : List Text) :
    (parseSegments (segments.map Text.trim)).mapError ParseError.message =
      (parseSegments segments).mapError ParseError.message := by
  induction segments with
  | nil => rfl
  | cons segment rest ih =>
    have first := Element.mapError_parse_trim segment
    rw [List.map_cons, parseSegments_cons, parseSegments_cons]
    generalize Element.parse (Text.trim segment) = trimmed at first ⊢
    generalize Element.parse segment = whole at first ⊢
    generalize parseSegments (rest.map Text.trim) = later at ih ⊢
    generalize parseSegments rest = later' at ih ⊢
    cases trimmed <;> cases whole <;> cases later <;> cases later' <;>
      simp_all [Except.mapError, Except.bind, Except.map]

theorem dropEmptyEnd_singleton (segment : Text) :
    dropEmptyEnd [segment] = if segment = [] then [] else [segment] := by
  simp [dropEmptyEnd]

theorem dropEmptyEnd_cons_cons (first second : Text) (rest : List Text) :
    dropEmptyEnd (first :: second :: rest) = first :: dropEmptyEnd (second :: rest) := by
  simp only [dropEmptyEnd, List.getLast?_cons_cons]
  split <;> simp

theorem dropEmptyEnd_append {more : List Text} (nonempty : more ≠ []) (segments : List Text) :
    dropEmptyEnd (segments ++ more) = segments ++ dropEmptyEnd more := by
  induction segments with
  | nil => rfl
  | cons segment rest ih =>
    obtain ⟨second, others, cut⟩ := List.exists_cons_of_ne_nil (List.append_ne_nil_of_right_ne_nil rest nonempty)
    rw [List.cons_append, cut, dropEmptyEnd_cons_cons, ← cut, ih, List.cons_append]

/-- Trimming the segments makes no further segment empty if a blank last one is empty already. -/
theorem map_trim_dropEmptyEnd {segments : List Text}
    (shut : ∀ segment, segments.getLast? = some segment → Text.trim segment = [] → segment = []) :
    (dropEmptyEnd segments).map Text.trim = dropEmptyEnd (segments.map Text.trim) := by
  simp only [dropEmptyEnd, List.getLast?_map]
  cases last : segments.getLast? with
  | none => simp
  | some segment =>
    by_cases empty : segment = []
    · subst empty
      simp [Text.trim_eq_nil_iff]
    · have solid : Text.trim segment ≠ [] := fun blank => empty (shut segment last blank)
      simp [empty, solid]

/-- The last segment of a trimmed line is not made of blanks. -/
theorem eq_nil_of_last_segment {line segment : Text}
    (last : (Text.splitOn ';' (Text.trim line)).getLast? = some segment)
    (blank : Text.trim segment = []) : segment = [] := by
  by_contra nonempty
  obtain ⟨front, pieces⟩ := List.getLast?_eq_some_iff.1 last
  have whole := Text.join_splitOn ';' (Text.trim line)
  have ending : (Text.trim line).getLast? = segment.getLast? := by
    rw [← whole, pieces]
    clear pieces whole last
    induction front with
    | nil => simp [Text.join]
    | cons piece rest ih =>
      obtain ⟨second, others, cut⟩ : ∃ second others, rest ++ [segment] = second :: others :=
        List.exists_cons_of_ne_nil (by simp)
      rw [List.cons_append, cut, Text.join_cons_cons, ← cut, List.getLast?_append, List.getLast?_append, ih,
        List.getLast?_eq_some_getLast nonempty]
      rfl
  rw [List.getLast?_eq_some_getLast nonempty] at ending
  have solid := Text.not_isBlank_of_getLast?_trim ending
  rw [Text.trim_eq_nil_iff.1 blank _ (List.getLast_mem nonempty)] at solid
  cases solid

/-- Reads what the semicolons of a line leave, each piece without the blanks around it. -/
def parsePieces (pieces : List Text) : Except ParseError (List Element) :=
  parseSegments (dropEmptyEnd (pieces.map Text.trim))

/-- It does not matter whether a line is trimmed before it is cut or its pieces afterwards. -/
theorem mapError_parse (line : Text) :
    (parse line).mapError ParseError.message =
      (parsePieces (Text.splitOn ';' line)).mapError ParseError.message := by
  rw [parse, segments, ← mapError_parseSegments_map_trim,
    map_trim_dropEmptyEnd fun _ last blank => eq_nil_of_last_segment last blank,
    Text.map_trim_splitOn_trim (by decide), parsePieces]

theorem parse_eq_ok_iff {line : Text} {elements : List Element} :
    parse line = .ok elements ↔ parsePieces (Text.splitOn ';' line) = .ok elements := by
  rw [← mapError_eq_ok_iff, mapError_parse, mapError_eq_ok_iff]

theorem parsePieces_blank {piece : Text} (blank : ∀ c ∈ piece, Text.isBlank c = true) :
    parsePieces [piece] = .ok [] := by
  rw [parsePieces, List.map_singleton, Text.trim_eq_nil_iff.2 blank]
  rfl

theorem parsePieces_singleton_eq_ok_iff {piece : Text} (solid : ¬ ∀ c ∈ piece, Text.isBlank c = true)
    {elements : List Element} : parsePieces [piece] = .ok elements ↔
      ∃ element, Element.parse piece = .ok element ∧ elements = [element] := by
  have nonempty : Text.trim piece ≠ [] := fun empty => solid (Text.trim_eq_nil_iff.1 empty)
  rw [parsePieces, List.map_singleton, dropEmptyEnd_singleton, if_neg nonempty, parseSegments_cons]
  simp only [← Element.parse_trim_eq_ok_iff piece]
  cases Element.parse (Text.trim piece) with
  | error e => simp [Except.bind]
  | ok element => simp [Except.bind, Except.map, parseSegments, eq_comm]

theorem parsePieces_cons_cons_eq_ok_iff {first second : Text} {rest : List Text}
    {elements : List Element} : parsePieces (first :: second :: rest) = .ok elements ↔
      ∃ element more, Element.parse first = .ok element ∧ parsePieces (second :: rest) = .ok more ∧
        elements = element :: more := by
  simp only [parsePieces, List.map_cons, dropEmptyEnd_cons_cons, parseSegments_cons,
    ← Element.parse_trim_eq_ok_iff first]
  cases Element.parse (Text.trim first) with
  | error e => simp [Except.bind]
  | ok element =>
    cases parseSegments (dropEmptyEnd (Text.trim second :: rest.map Text.trim)) with
    | error e => simp [Except.bind, Except.map]
    | ok more => simp [Except.bind, Except.map, eq_comm]

theorem parse_of_blanks {line : Text} (blank : ∀ c ∈ line, Text.isBlank c = true) :
    parse line = .ok [] := by
  rw [parse, segments, Text.trim_eq_nil_iff.2 blank]
  rfl

/-- A line means what the piece means that it was read from. -/
theorem parse_of_strips {piece line : Text} (strips : Text.Strips piece line) :
    parse line = parse piece := by
  rw [parse, parse, segments, segments, strips.trim_eq]

end Chain

end ChainShell
