import ChainShell.Proofs.Chain.Segments

namespace ChainShell

/-- A segment that is no element, with what is said of it: it has more than two stages, or else a blank
one. -/
inductive Malformed (segment : Text) : Text → Prop
  | tooManyStages : 2 < (Text.splitOn '|' segment).length →
      Malformed segment ("expected one or two commands, got ".toList ++ Text.quote (Text.trim segment))
  | blankStage {stage : Text} : (Text.splitOn '|' segment).length ≤ 2 → stage ∈ Text.splitOn '|' segment →
      (∀ c ∈ stage, Text.isBlank c = true) → Malformed segment "no command given".toList

theorem Command.parse_of_blanks {text : Text} (blank : ∀ c ∈ text, Text.isBlank c = true) :
    Command.parse text = .error .noCommand := by
  rw [Command.parse, Text.words_of_blanks blank]

theorem Command.exists_parse {text : Text} (solid : ¬ ∀ c ∈ text, Text.isBlank c = true) :
    ∃ command, Command.parse text = .ok command := by
  obtain ⟨name, args, cut⟩ := List.exists_cons_of_ne_nil (mt Text.words_eq_nil_iff.1 solid)
  exact ⟨⟨name, args⟩, by rw [Command.parse, cut]⟩

namespace Element

variable {segment : Text}

/-- The stages of a segment are counted before any of them is read. -/
theorem parse_of_many (many : 2 < (Text.splitOn '|' segment).length) :
    Element.parse segment = .error (.tooManyStages segment) := by
  rw [Element.parse]
  split
  · rename_i text cut
    simp [cut] at many
  · rename_i left right cut
    simp [cut] at many
  · rfl

theorem stages_of_few (few : (Text.splitOn '|' segment).length ≤ 2) :
    (∃ text, Text.splitOn '|' segment = [text]) ∨
      ∃ left right, Text.splitOn '|' segment = [left, right] := by
  rcases cut : Text.splitOn '|' segment with _ | ⟨first, _ | ⟨second, _ | ⟨third, rest⟩⟩⟩
  · exact absurd cut (Text.splitOn_ne_nil '|' segment)
  · exact .inl ⟨first, rfl⟩
  · exact .inr ⟨first, second, rfl⟩
  · simp [cut] at few

theorem parse_of_one {text : Text} (cut : Text.splitOn '|' segment = [text]) :
    Element.parse segment = (Command.parse text).map .single := by
  simp only [Element.parse, cut]
  cases Command.parse text <;> rfl

theorem parse_of_two {left right : Text} (cut : Text.splitOn '|' segment = [left, right]) :
    Element.parse segment =
      (Command.parse left).bind fun first => (Command.parse right).map (.piped first) := by
  simp only [Element.parse, cut]
  cases Command.parse left with
  | error error => rfl
  | ok first => cases Command.parse right <;> rfl

theorem parse_of_blank_stage (few : (Text.splitOn '|' segment).length ≤ 2) {stage : Text}
    (inside : stage ∈ Text.splitOn '|' segment) (blank : ∀ c ∈ stage, Text.isBlank c = true) :
    Element.parse segment = .error .noCommand := by
  have refused := Command.parse_of_blanks blank
  rcases stages_of_few few with ⟨text, cut⟩ | ⟨left, right, cut⟩
  · rw [cut, List.mem_singleton] at inside
    rw [parse_of_one cut, ← inside, refused]
    rfl
  · rw [cut, List.mem_cons, List.mem_singleton] at inside
    rw [parse_of_two cut]
    rcases inside with rfl | rfl
    · rw [refused]
      rfl
    · by_cases blankLeft : ∀ c ∈ left, Text.isBlank c = true
      · rw [Command.parse_of_blanks blankLeft]
        rfl
      · obtain ⟨first, parsed⟩ := Command.exists_parse blankLeft
        rw [parsed, refused]
        rfl

theorem parse_of_blanks (blank : ∀ c ∈ segment, Text.isBlank c = true) :
    Element.parse segment = .error .noCommand := by
  rw [parse_of_one (Text.splitOn_of_not_mem (Text.not_mem_of_blanks (by decide) blank)),
    Command.parse_of_blanks blank]
  rfl

theorem exists_parse_of_solid (few : (Text.splitOn '|' segment).length ≤ 2)
    (solid : ∀ stage ∈ Text.splitOn '|' segment, ¬ ∀ c ∈ stage, Text.isBlank c = true) :
    ∃ element, Element.parse segment = .ok element := by
  rcases stages_of_few few with ⟨text, cut⟩ | ⟨left, right, cut⟩
  · obtain ⟨command, parsed⟩ := Command.exists_parse (solid text (by simp [cut]))
    exact ⟨.single command, by rw [parse_of_one cut, parsed]; rfl⟩
  · obtain ⟨first, parsed⟩ := Command.exists_parse (solid left (by simp [cut]))
    obtain ⟨second, parsed'⟩ := Command.exists_parse (solid right (by simp [cut]))
    exact ⟨.piped first second, by rw [parse_of_two cut, parsed, parsed']; rfl⟩

theorem refused_of_malformed {said : Text} (malformed : Malformed segment said) :
    (Element.parse segment).mapError ParseError.message = .error said := by
  cases malformed with
  | tooManyStages many =>
    rw [parse_of_many many]
    rfl
  | blankStage few inside blank =>
    rw [parse_of_blank_stage few inside blank]
    rfl

theorem exists_parse_or_malformed (segment : Text) :
    (∃ element, Element.parse segment = .ok element) ∨ ∃ said, Malformed segment said := by
  by_cases many : 2 < (Text.splitOn '|' segment).length
  · exact .inr ⟨_, .tooManyStages many⟩
  · have few := Nat.le_of_not_lt many
    by_cases solid : ∀ stage ∈ Text.splitOn '|' segment, ¬ ∀ c ∈ stage, Text.isBlank c = true
    · exact .inl (exists_parse_of_solid few solid)
    · push Not at solid
      obtain ⟨stage, inside, blank⟩ := solid
      exact .inr ⟨_, .blankStage few inside blank⟩

theorem refused_iff {said : Text} :
    (Element.parse segment).mapError ParseError.message = .error said ↔ Malformed segment said := by
  refine ⟨fun refused => ?_, refused_of_malformed⟩
  rcases exists_parse_or_malformed segment with ⟨element, parsed⟩ | ⟨other, malformed⟩
  · rw [parsed] at refused
    cases refused
  · have refused' := refused_of_malformed malformed
    rw [refused, Except.error.injEq] at refused'
    rwa [refused']

theorem exists_parse_iff :
    (∃ element, Element.parse segment = .ok element) ↔ ∀ said, ¬ Malformed segment said := by
  simp only [← refused_iff]
  cases Element.parse segment <;> simp [Except.mapError]

end Element

namespace Chain

/-- What a line reads as, or what is said of it if it is no chain. -/
def told (line : Text) : Except Text (List Element) :=
  (parse line).mapError ParseError.message

/-- Whether the last segment of a line is blank: the line is blank, or its last character but for blanks
is a semicolon. -/
def EndsBlank (line : Text) : Prop :=
  Text.trim line = [] ∨ (Text.trim line).getLast? = some ';'

instance (line : Text) : Decidable (EndsBlank line) :=
  inferInstanceAs (Decidable (_ ∨ _))

/-- The segments of a line as they stand in it, with the blanks around them; a blank one at the end is
none. -/
def segmentsIn (line : Text) : List Text :=
  if EndsBlank line then (Text.splitOn ';' line).dropLast else Text.splitOn ';' line

theorem parseSegments_append (segments more : List Text) :
    parseSegments (segments ++ more) =
      (parseSegments segments).bind fun elements => (parseSegments more).map (elements ++ ·) := by
  induction segments with
  | nil =>
    rw [List.nil_append]
    cases parseSegments more <;> rfl
  | cons segment rest ih =>
    rw [List.cons_append, parseSegments_cons, parseSegments_cons, ih]
    cases Element.parse segment with
    | error error => rfl
    | ok element =>
      cases parseSegments rest with
      | error error => rfl
      | ok elements => cases parseSegments more <;> rfl

/-- Segments are refused with what is said of the first of them that is malformed. -/
theorem parseSegments_refused_iff {segments : List Text} {said : Text} :
    (parseSegments segments).mapError ParseError.message = .error said ↔
      ∃ front segment rest, segments = front ++ segment :: rest ∧
        (∀ before ∈ front, ∀ other, ¬ Malformed before other) ∧ Malformed segment said := by
  induction segments with
  | nil => simp [parseSegments, Except.mapError]
  | cons first rest ih =>
    rw [parseSegments_cons]
    constructor
    · intro refused
      cases parsed : Element.parse first with
      | error error =>
        rw [parsed] at refused
        have here : (Element.parse first).mapError ParseError.message = .error said := by
          rw [parsed]
          exact congrArg Except.error (Except.error.inj refused)
        exact ⟨[], first, rest, rfl, by simp, Element.refused_iff.1 here⟩
      | ok element =>
        rw [parsed, Except.bind, mapError_map, map_eq_error_iff] at refused
        obtain ⟨front, segment, behind, cut, sound, malformed⟩ := ih.1 refused
        have soundHere := Element.exists_parse_iff.1 ⟨element, parsed⟩
        exact ⟨first :: front, segment, behind, by rw [cut]; rfl, List.forall_mem_cons.2 ⟨soundHere, sound⟩,
          malformed⟩
    · rintro ⟨front, segment, behind, cut, sound, malformed⟩
      cases front with
      | nil =>
        obtain ⟨rfl, rfl⟩ := List.cons_eq_cons.1 cut
        obtain ⟨error, refused, worded⟩ := mapError_eq_error_iff.1 (Element.refused_iff.2 malformed)
        rw [refused, ← worded]
        rfl
      | cons before front =>
        obtain ⟨rfl, rfl⟩ := List.cons_eq_cons.1 cut
        rw [List.forall_mem_cons] at sound
        obtain ⟨element, parsed⟩ := Element.exists_parse_iff.2 sound.1
        rw [parsed, Except.bind, mapError_map, map_eq_error_iff]
        exact ih.2 ⟨front, segment, behind, rfl, sound.2, malformed⟩

/-- A line ends blank exactly if what its semicolons separate ends with a blank piece. -/
theorem endsBlank_iff {line last : Text} {front : List Text}
    (cut : Text.splitOn ';' line = front ++ [last]) : EndsBlank line ↔ Text.trim last = [] := by
  constructor
  · rintro (empty | closed)
    · have blank := Text.trim_eq_nil_iff.1 empty
      have whole := Text.splitOn_of_not_mem (Text.not_mem_of_blanks (c := ';') (by decide) blank)
      rw [cut] at whole
      obtain ⟨-, same⟩ := List.append_inj' (whole.trans (List.nil_append [line]).symm) rfl
      rw [List.singleton_inj.1 same, empty]
    · obtain ⟨before, after, -, blank, whole⟩ := Text.exists_trim line
      obtain ⟨rest, trimmed⟩ := List.getLast?_eq_some_iff.1 closed
      have shape : line = before ++ rest ++ ';' :: after := by
        rw [trimmed] at whole
        simpa using whole
      have pieces : Text.splitOn ';' (before ++ rest ++ ';' :: after) = _ :=
        Text.splitOn_append_separator (before ++ rest) after
      rw [← shape, cut, Text.splitOn_of_not_mem (Text.not_mem_of_blanks (c := ';') (by decide) blank)] at pieces
      obtain ⟨-, same⟩ := List.append_inj' pieces rfl
      rw [List.singleton_inj.1 same, Text.trim_eq_nil_iff.2 blank]
  · intro empty
    have blank := Text.trim_eq_nil_iff.1 empty
    have whole := Text.join_splitOn ';' line
    rw [cut] at whole
    rcases List.eq_nil_or_concat' front with rfl | ⟨others, piece, rfl⟩
    · rw [List.nil_append, Text.join_singleton] at whole
      exact .inl (by rw [← whole, empty])
    · rw [Text.join_concat_concat] at whole
      exact .inr (by rw [← whole]; exact Text.getLast?_trim_of_solid (by decide) _ blank)

/-- A line is read, or refused, segment by segment. -/
theorem told_eq (line : Text) :
    told line = (parseSegments (segmentsIn line)).mapError ParseError.message := by
  obtain ⟨front, last, cut⟩ := Text.exists_splitOn_concat ';' line
  have segments : (segmentsIn line).map Text.trim = dropEmptyEnd ((Text.splitOn ';' line).map Text.trim) := by
    rw [segmentsIn, cut, List.map_append, dropEmptyEnd_append (by simp), List.map_singleton,
      dropEmptyEnd_singleton]
    simp only [endsBlank_iff cut]
    split
    · rw [List.dropLast_concat, List.append_nil]
    · rw [List.map_append, List.map_singleton]
  rw [told, mapError_parse, parsePieces, ← segments, mapError_parseSegments_map_trim]

theorem segmentsIn_append (line more : Text) :
    segmentsIn (line ++ ';' :: more) = Text.splitOn ';' line ++ segmentsIn more := by
  obtain ⟨front, last, cut⟩ := Text.exists_splitOn_concat ';' more
  have pieces : Text.splitOn ';' (line ++ ';' :: more) = Text.splitOn ';' line ++ front ++ [last] := by
    rw [Text.splitOn_append_separator, cut, List.append_assoc]
  have same : EndsBlank (line ++ ';' :: more) ↔ EndsBlank more := by
    rw [endsBlank_iff pieces, endsBlank_iff cut]
  simp only [segmentsIn, same, pieces, cut]
  split
  · rw [List.dropLast_concat, List.dropLast_concat]
  · rw [List.append_assoc]

theorem told_append (line more : Text) : told (line ++ ';' :: more) =
    (told line).bind fun elements =>
      if EndsBlank line then .error "no command given".toList else (told more).map (elements ++ ·) := by
  obtain ⟨front, last, cut⟩ := Text.exists_splitOn_concat ';' line
  simp only [told_eq, segmentsIn_append, parseSegments_append, mapError_bind, mapError_map]
  by_cases blank : EndsBlank line
  · have refused := Element.parse_of_blanks (Text.trim_eq_nil_iff.1 ((endsBlank_iff cut).1 blank))
    simp only [segmentsIn, if_pos blank, cut, List.dropLast_concat, parseSegments_append, parseSegments_cons,
      refused]
    cases parseSegments front <;> rfl
  · simp only [segmentsIn, if_neg blank]

/-- A line with another one behind a semicolon is refused as the line alone is, if it is; else it is refused
if the line ends blank; and else it reads as both, or is refused as the other one is. What is said of a line
is always what is to be said of the first of its segments that is malformed. -/
theorem concatenation_law (line more : Text) :
    (told (line ++ ';' :: more) = (told line).bind fun elements =>
        if EndsBlank line then .error "no command given".toList else (told more).map (elements ++ ·)) ∧
      ∀ said, told line = .error said ↔ ∃ front segment rest, segmentsIn line = front ++ segment :: rest ∧
        (∀ before ∈ front, ∀ other, ¬ Malformed before other) ∧ Malformed segment said := by
  refine ⟨told_append line more, fun said => ?_⟩
  rw [told_eq, parseSegments_refused_iff]

example : told "a ;b| |; c d ;".toList = .error "expected one or two commands, got 'b| |'".toList := by
  decide

end Chain

end ChainShell
