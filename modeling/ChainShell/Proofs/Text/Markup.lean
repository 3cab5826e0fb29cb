import ChainShell.Text.Markup
import Mathlib.Data.List.Basic

namespace ChainShell.Text

/-- A message in which only tags have a backslash before their bracket, and which does not end in a
lone backslash. -/
structure Traceless (message : Text) : Prop where
  bracket : ∀ before rest, message = before ++ '\\' :: '[' :: rest → opensTag rest = true
  ending : ∀ before, message = before ++ ['\\'] → before.getLast? = some '\\'

theorem escapesBracket_iff {text : Text} :
    escapesBracket text = true ↔ ∃ rest, text = '[' :: rest ∧ opensTag rest = false := by
  constructor
  · intro escapes
    unfold escapesBracket at escapes
    split at escapes
    · exact ⟨_, rfl, by simpa using escapes⟩
    · cases escapes
  · rintro ⟨rest, rfl, other⟩
    simp [escapesBracket, other]

/-- A backslash behind a text is no bracket, so it neither makes a tag nor ends one. -/
theorem opensTag_append_backslash (text : Text) : opensTag (text ++ ['\\']) = opensTag text := by
  cases text with
  | nil => rfl
  | cons c rest =>
    simp only [List.cons_append, opensTag, List.dropWhile_append]
    cases scanned : rest.dropWhile fun x => x != '[' && x != ']' with
    | nil => rfl
    | cons d tail =>
      simp only [List.isEmpty_cons, Bool.false_eq_true, if_false, List.cons_append]
      by_cases closes : d = ']'
      · subst closes; rfl
      · simp [closes]

theorem escapesBracket_append_backslash (text : Text) :
    escapesBracket (text ++ ['\\']) = escapesBracket text := by
  cases text with
  | nil => rfl
  | cons c rest =>
    rw [Bool.eq_iff_iff, escapesBracket_iff, escapesBracket_iff]
    constructor
    · rintro ⟨tail, same, other⟩
      rw [List.cons_append, List.cons.injEq] at same
      obtain ⟨rfl, rfl⟩ := same
      exact ⟨rest, rfl, by rwa [opensTag_append_backslash] at other⟩
    · rintro ⟨tail, same, other⟩
      rw [List.cons.injEq] at same
      obtain ⟨rfl, rfl⟩ := same
      exact ⟨rest ++ ['\\'], rfl, by rwa [opensTag_append_backslash]⟩

theorem dropBracketEscapes_append_backslash (text : Text) :
    dropBracketEscapes (text ++ ['\\']) = dropBracketEscapes text ++ ['\\'] := by
  induction text with
  | nil => rfl
  | cons c rest ih =>
    rw [List.cons_append, dropBracketEscapes_cons, dropBracketEscapes_cons,
      escapesBracket_append_backslash, ih]
    split <;> rfl

theorem dropBracketEscapes_sublist (text : Text) : (dropBracketEscapes text).Sublist text := by
  induction text with
  | nil => exact .slnil
  | cons c rest ih =>
    rw [dropBracketEscapes_cons]
    split
    · exact ih.cons c
    · exact ih.cons_cons c

/-- Either no bracket but those of tags has a backslash before it and nothing is dropped, or the first
such backslash is missing. -/
theorem dropBracketEscapes_cases (text : Text) :
    (dropBracketEscapes text = text ∧
      ∀ before rest, text = before ++ '\\' :: '[' :: rest → opensTag rest = true) ∨
    ∃ before rest kept, text = before ++ '\\' :: '[' :: rest ∧ opensTag rest = false ∧
      dropBracketEscapes text = before ++ '[' :: kept := by
  induction text with
  | nil => exact .inl ⟨rfl, fun before rest whole => by simp at whole⟩
  | cons c tail ih =>
    rw [dropBracketEscapes_cons]
    by_cases escape : (c == '\\' && escapesBracket tail) = true
    · rw [if_pos escape]
      rw [Bool.and_eq_true, beq_iff_eq, escapesBracket_iff] at escape
      obtain ⟨rfl, rest, rfl, other⟩ := escape
      exact .inr ⟨[], rest, dropBracketEscapes rest, rfl, other, dropBracketEscapes_cons '[' rest⟩
    · rw [if_neg escape]
      rcases ih with ⟨same, tags⟩ | ⟨before, rest, kept, rfl, other, shorter⟩
      · refine .inl ⟨by rw [same], fun before rest whole => ?_⟩
        cases before with
        | nil =>
          obtain ⟨rfl, rfl⟩ := List.cons.inj whole
          by_contra other
          exact escape (by simp [escapesBracket, other])
        | cons d before => exact tags before rest (List.cons.inj whole).2
      · exact .inr ⟨c :: before, rest, kept, rfl, other, by rw [shorter, List.cons_append]⟩

/-- Either the message does not end in a lone backslash and is left alone, or it gains another. -/
theorem guardEnd_cases (message : Text) :
    (guardEnd message = message ∧
      ∀ before, message = before ++ ['\\'] → before.getLast? = some '\\') ∨
    (guardEnd message = message ++ ['\\'] ∧
      ∃ before, message = before ++ ['\\'] ∧ before.getLast? ≠ some '\\') := by
  rcases List.eq_nil_or_concat' message with rfl | ⟨before, c, rfl⟩
  · exact .inl ⟨rfl, fun before whole => by simp at whole⟩
  by_cases last : c = '\\'
  · subst last
    by_cases guarded : before.getLast? = some '\\'
    · obtain ⟨front, rfl⟩ := List.getLast?_eq_some_iff.1 guarded
      refine .inl ⟨by simp [guardEnd], fun other whole => ?_⟩
      rw [← (List.append_inj_left' whole rfl)]
      exact guarded
    · refine .inr ⟨?_, before, rfl, guarded⟩
      rw [guardEnd, List.reverse_concat]
      split
      · rename_i rest two
        have front : before = rest.reverse ++ ['\\'] := by
          rw [← List.reverse_inj, (List.cons.inj two).2]
          simp
        exact absurd (by rw [front, List.getLast?_concat]) guarded
      · rfl
      · rename_i none
        exact absurd rfl (none before.reverse)
  · refine .inl ⟨?_, fun other whole => ?_⟩
    · rw [guardEnd, List.reverse_concat]
      split
      · rename_i two
        exact absurd (List.cons.inj two).1 last
      · rename_i one
        exact absurd (List.cons.inj one).1 last
      · rfl
    · have ends := List.append_inj_right' whole rfl
      exact absurd (List.cons.inj ends).1 last

theorem mem_of_mem_literal {c : Char} {message : Text} (inside : c ∈ literal message) :
    c ∈ message := by
  have kept := (dropBracketEscapes_sublist _).subset inside
  rcases guardEnd_cases message with ⟨same, _⟩ | ⟨longer, before, rfl, _⟩
  · rwa [same] at kept
  · rw [longer] at kept
    simpa using kept

/-- Nor does a look at some of the characters only, backslashes and brackets among them, miss the
trace: the first bracket that lost its backslash stands in the backslash's place, and if there is
none, the message has grown. -/
theorem filter_literal_iff {p : Char → Bool} (backslash : p '\\' = true) (bracket : p '[' = true)
    {message : Text} : (literal message).filter p = message.filter p ↔ Traceless message := by
  constructor
  · intro same
    rw [literal] at same
    rcases dropBracketEscapes_cases message with ⟨whole, tags⟩ | ⟨before, rest, kept, split, _, dropped⟩
    · refine ⟨tags, ?_⟩
      rcases guardEnd_cases message with ⟨_, ending⟩ | ⟨longer, _⟩
      · exact ending
      · rw [longer, dropBracketEscapes_append_backslash, whole] at same
        simp [backslash] at same
    · -- what follows the first dropped backslash is irrelevant, a guard at the end included
      have shown : ∃ tail, dropBracketEscapes (guardEnd message) = before ++ '[' :: tail := by
        rcases guardEnd_cases message with ⟨unguarded, _⟩ | ⟨longer, _⟩
        · exact ⟨kept, by rw [unguarded, dropped]⟩
        · exact ⟨kept ++ ['\\'], by rw [longer, dropBracketEscapes_append_backslash, dropped]; simp⟩
      obtain ⟨tail, shown⟩ := shown
      rw [shown, split] at same
      simp [backslash, bracket] at same
  · intro traceless
    have unguarded : guardEnd message = message := by
      rcases guardEnd_cases message with ⟨same, _⟩ | ⟨_, before, ends, lone⟩
      · exact same
      · exact absurd (traceless.ending before ends) lone
    have undropped : dropBracketEscapes message = message := by
      rcases dropBracketEscapes_cases message with ⟨same, _⟩ | ⟨before, rest, _, split, other, _⟩
      · exact same
      · rw [traceless.bracket before rest split] at other
        cases other
    rw [literal, unguarded, undropped]

/-- The messages that are seen as they are written. -/
theorem literal_eq_iff {message : Text} : literal message = message ↔ Traceless message := by
  rw [← filter_literal_iff (p := fun _ => true) rfl rfl, List.filter_true, List.filter_true]

instance (message : Text) : Decidable (Traceless message) :=
  decidable_of_iff _ literal_eq_iff

/-- A path with a backslash before a tag is seen as it is written. -/
example : literal "C:\\[dir] [1] \\\\".toList = "C:\\[dir] [1] \\\\".toList :=
  literal_eq_iff.2 (by decide)

end ChainShell.Text
