import ChainShell.LineReader.Chunked
import ChainShell.Proofs.LineReader.Script
import ChainShell.Proofs.Text.Breaks
import ChainShell.Proofs.Text.Utf8

namespace ChainShell.LineReader

open Text

namespace Chunked

variable {source : Chunked} {coming : Text} {tail : Bytes}

theorem unifyBreaks_append_holdEnd (text more : Text) :
    unifyBreaks (text ++ more) = (holdEnd text).1 ++ unifyBreaks (release (holdEnd text).2 more) := by
  rw [holdEnd]
  split
  · rename_i last
    have whole : text ++ more = text.dropLast ++ '\r' :: more := by
      rw [List.append_cons, List.dropLast_append_getLast? _ last]
    have apart : ('\r' :: more).head? ≠ some '\n' := by
      rw [List.head?_cons, Ne, Option.some.injEq]
      decide
    rw [whole, unifyBreaks_append (.inr apart)]
    rfl
  · rename_i other
    simp only [release, Bool.false_eq_true, if_false]
    exact unifyBreaks_append (.inl other)

/-- A part of the text is put at hand as it is in the whole, whatever follows it. -/
theorem unifyBreaks_release_append (held : Bool) (text more : Text) :
    unifyBreaks (release held (text ++ more)) =
      (receive held text).1 ++ unifyBreaks (release (receive held text).2 more) := by
  rw [receive]
  split
  · rename_i empty
    rw [empty, List.nil_append, List.nil_append]
  · have behind : release held (text ++ more) = release held text ++ more := by
      rw [release, release]
      split <;> rfl
    rw [behind, unifyBreaks_append_holdEnd]

/-- What is still to come from a source behind the text at hand: its bytes decode to that, with the line breaks
made one, and leave a tail that is no text. -/
structure Brings (source : Chunked) (coming : Text) (tail : Bytes) : Prop where
  decodes : ∃ text, Utf8.Decodes (source.undecoded ++ source.untaken) text tail ∧
    coming = unifyBreaks (release source.held text)
  stuck : Utf8.Stuck source.undecoded

theorem Brings.ofBytes {bytes : Bytes} {text : Text} (decodes : Utf8.Decodes bytes text tail) :
    (ofBytes bytes).Brings (unifyBreaks text) tail :=
  ⟨⟨text, decodes, rfl⟩, Utf8.stuck_nil⟩

/-- What the next chunk is to be: none only if nothing is to come, an error only if the bytes are not all text,
and otherwise the first part of what is to come, put at hand. -/
inductive Continues (coming : Text) (tail : Bytes) : Option (Except Utf8.DecodeError Chunked) → Prop
  | finished : coming = [] → tail = [] → Continues coming tail none
  | broken {e : Utf8.DecodeError} : tail ≠ [] → Continues coming tail (some (.error e))
  | chunk {more : Chunked} {rest : Text} : coming = more.buffer ++ rest → more.Brings rest tail →
      Continues coming tail (some (.ok more))

/-- What the next line of a text is to be: an error only if the bytes are not all text, and otherwise the first
line, with the others left to come; it has a line feed unless the bytes are all text. -/
inductive Gives (text : Text) (tail : Bytes) : Except Utf8.DecodeError (Text × Chunked) → Prop
  | broken {e : Utf8.DecodeError} : tail ≠ [] → Gives text tail (.error e)
  | line {line rest : Text} {after : Chunked} : splitLine text = (line, after.buffer ++ rest) →
      (tail = [] ∨ '\n' ∈ line) → after.Brings rest tail → Gives text tail (.ok (line, after))

namespace Brings

theorem next (brings : source.Brings coming tail) : Continues coming tail source.next := by
  obtain ⟨⟨text, decodes, rfl⟩, stuck⟩ := brings
  by_cases none : source.untaken = []
  · -- all bytes are taken, so those that are not decoded are the tail
    rw [Chunked.next, if_pos none]
    obtain ⟨rfl, rfl⟩ : text = [] ∧ tail = source.undecoded := by
      rw [none, List.append_nil] at decodes
      exact (Utf8.Decodes.of_stuck stuck).unique decodes
    by_cases left : source.undecoded = []
    · rw [left, show Utf8.decode [] = .ok [] from Utf8.decode_encode []]
      cases waits : source.held with
      | true => exact .chunk rfl ⟨⟨[], .of_stuck Utf8.stuck_nil, rfl⟩, Utf8.stuck_nil⟩
      | false => exact .finished rfl rfl
    · obtain ⟨e, failed⟩ := (Utf8.Decodes.of_stuck stuck).exists_decode_eq_error left
      rw [failed]
      exact .broken left
  · -- the chunk decodes to the front of the text, or what fails in it fails whatever follows it
    rw [Chunked.next, if_neg none]
    obtain ⟨front, left, here⟩ :=
      Utf8.Decodes.exists_of_bytes (source.undecoded ++ source.untaken.take chunkSize)
    rw [← List.take_append_drop chunkSize source.untaken, ← List.append_assoc] at decodes
    rcases here.decodeChunk_eq with ⟨⟨count, defect, broken⟩, e, failed⟩ | ⟨-, done⟩
    · have still := Utf8.head_append_of_invalid broken (source.untaken.drop chunkSize)
      obtain ⟨-, rfl⟩ := (here.append (.of_stuck (Utf8.stuck_of_invalid still))).unique decodes
      rw [failed]
      refine .broken fun empty => ?_
      rw [empty] at still
      cases still
    · obtain ⟨behind, _, there⟩ := Utf8.Decodes.exists_of_bytes (left ++ source.untaken.drop chunkSize)
      obtain ⟨rfl, rfl⟩ := (here.append there).unique decodes
      rw [done]
      exact .chunk (unifyBreaks_release_append ..) ⟨⟨behind, there, rfl⟩, here.stuck⟩

theorem nextLine (brings : source.Brings coming tail) :
    Gives (source.buffer ++ coming) tail source.nextLine := by
  fun_induction Chunked.nextLine source generalizing coming with
  | case1 source complete =>
    obtain ⟨line, behind, whole, free⟩ := List.eq_append_cons_of_mem (List.contains_iff_mem.1 complete)
    rw [whole, List.append_assoc, List.cons_append, splitLine_append_feed free]
    exact .line (splitLine_append_feed free _) (.inr List.mem_concat_self) ⟨brings.decodes, brings.stuck⟩
  | case2 source incomplete taken =>
    have free : '\n' ∉ source.buffer := fun feed => incomplete (List.contains_iff_mem.2 feed)
    have further := brings.next
    rw [taken] at further
    cases further with
    | finished nothing all =>
      subst nothing all
      rw [List.append_nil]
      exact .line (splitLine_of_not_mem free) (.inl rfl) ⟨brings.decodes, brings.stuck⟩
  | case3 source incomplete e taken =>
    have further := brings.next
    rw [taken] at further
    cases further with
    | broken left => exact .broken left
  | case4 source incomplete more taken e failed ih =>
    have further := brings.next
    rw [taken] at further
    cases further with
    | chunk _ later =>
      have answer := ih later
      rw [failed] at answer
      cases answer with
      | broken left => exact .broken left
  | case5 source incomplete more taken text after done ih =>
    have free : '\n' ∉ source.buffer := fun feed => incomplete (List.contains_iff_mem.2 feed)
    have further := brings.next
    rw [taken] at further
    cases further with
    | chunk whole later =>
      subst whole
      have answer := ih later
      rw [done] at answer
      cases answer with
      | line first ended left =>
        refine .line ?_ (ended.imp_right (List.mem_append_right _)) left
        rw [splitLine_append_of_not_mem free, first]

end Brings

theorem read_of_error {e : Utf8.DecodeError} (answer : source.nextLine = .error e) :
    source.read = (.error (.undecodable e), source) := by
  rw [read, answer]

theorem read_of_nil {after : Chunked} (answer : source.nextLine = .ok ([], after)) :
    source.read = (.error endOfText, after) := by
  rw [read, answer]

theorem read_of_ne_nil {line : Text} {after : Chunked} (answer : source.nextLine = .ok (line, after))
    (nonempty : line ≠ []) : source.read = (.ok (dropLineBreaks line), after) := by
  rw [read, answer]
  split <;> rename_i same <;> cases same
  · exact absurd rfl nonempty
  · rfl

namespace Brings

theorem read_failed_or_line (brings : source.Brings coming tail) :
    (tail ≠ [] ∧ ∃ e, source.read = (.error (.undecodable e), source)) ∨
      ∃ line after rest, source.nextLine = .ok (line, after) ∧
        splitLine (source.buffer ++ coming) = (line, after.buffer ++ rest) ∧ (tail = [] ∨ '\n' ∈ line) ∧
        after.Brings rest tail := by
  have next := brings.nextLine
  cases answer : source.nextLine with
  | error e =>
    rw [answer] at next
    cases next with
    | broken left => exact .inl ⟨left, e, read_of_error answer⟩
  | ok result =>
    rw [answer] at next
    cases next with
    | line first ended later => exact .inr ⟨_, _, _, rfl, first, ended, later⟩

/-- A line with a line feed is read whole, or else the bytes are not all text. -/
theorem read_line {line more : Text} (brings : source.Brings coming tail) (unbroken : Unbroken line)
    (whole : source.buffer ++ coming = line ++ '\n' :: more) :
    (tail ≠ [] ∧ ∃ e, source.read = (.error (.undecodable e), source)) ∨
      ∃ after rest, source.read = (.ok line, after) ∧ more = after.buffer ++ rest ∧ after.Brings rest tail := by
  refine brings.read_failed_or_line.imp_right fun ⟨text, after, rest, answer, first, _, later⟩ => ?_
  rw [whole, splitLine_append_feed unbroken.2, Prod.mk.injEq] at first
  obtain ⟨rfl, behind⟩ := first
  refine ⟨after, rest, ?_, behind, later⟩
  rw [read_of_ne_nil answer (by simp), unbroken.dropLineBreaks_feed]

/-- What has no line feed is read only if the bytes are all text. -/
theorem read_rest (brings : source.Brings coming tail) (free : '\n' ∉ source.buffer ++ coming) :
    (tail ≠ [] ∧ ∃ e, source.read = (.error (.undecodable e), source)) ∨
      tail = [] ∧ ∃ after, source.nextLine = .ok (source.buffer ++ coming, after) ∧
        ∃ rest, [] = after.buffer ++ rest ∧ after.Brings rest [] := by
  refine brings.read_failed_or_line.imp_right fun ⟨text, after, rest, answer, first, ended, later⟩ => ?_
  rw [splitLine_of_not_mem free, Prod.mk.injEq] at first
  obtain ⟨rfl, behind⟩ := first
  obtain rfl := ended.resolve_right free
  exact ⟨rfl, after, answer, rest, behind, later⟩

variable {prompt rest : Text} {lines : List Text}

theorem script_of_nothing (brings : source.Brings coming []) (whole : [] = source.buffer ++ coming) :
    (chunked prompt).script source = ([], endOfText) := by
  rcases brings.read_rest (whole ▸ List.not_mem_nil) with ⟨left, -⟩ | ⟨-, after, answer, -⟩
  · exact absurd rfl left
  · exact script_of_failure (read_of_nil (whole ▸ answer))

/-- A source of text gives its lines and what is left behind the last line feed, and then ends. -/
theorem script_of_text (brings : source.Brings coming []) (unbroken : ∀ line ∈ lines, Unbroken line)
    (last : Unbroken rest) (whole : source.buffer ++ coming = lines.flatMap (· ++ ['\n']) ++ rest) :
    (chunked prompt).script source = (lines ++ finalLine rest, endOfText) := by
  induction lines generalizing source coming with
  | nil =>
    rw [List.flatMap_nil, List.nil_append] at whole
    rw [List.nil_append, finalLine]
    split
    · rename_i empty
      exact brings.script_of_nothing (empty ▸ whole.symm)
    · rename_i nonempty
      rcases brings.read_rest (whole ▸ last.2) with ⟨left, -⟩ | ⟨-, after, answer, _, behind, later⟩
      · exact absurd rfl left
      · rw [whole] at answer
        have first : (chunked prompt).read source = (.ok rest, after) := by
          rw [← last.dropLineBreaks_eq]
          exact read_of_ne_nil answer nonempty
        rw [script_of_line first, later.script_of_nothing behind]
  | cons line lines ih =>
    rw [List.forall_mem_cons] at unbroken
    rw [List.flatMap_cons, List.append_assoc, List.append_assoc, List.singleton_append] at whole
    rcases brings.read_line unbroken.1 whole with ⟨left, -⟩ | ⟨after, _, answer, behind, later⟩
    · exact absurd rfl left
    · have first : (chunked prompt).read source = (.ok line, after) := answer
      rw [script_of_line first, ih later unbroken.2 behind.symm, List.cons_append]

/-- A source of bytes that are not all text gives some of the lines that are complete before they fail, and then
fails too. -/
theorem script_of_broken (brings : source.Brings coming tail) (broken : tail ≠ [])
    (unbroken : ∀ line ∈ lines, Unbroken line) (last : Unbroken rest)
    (whole : source.buffer ++ coming = lines.flatMap (· ++ ['\n']) ++ rest) :
    ((chunked prompt).script source).1 <+: lines ∧
      ∃ e, ((chunked prompt).script source).2 = .undecodable e := by
  induction lines generalizing source coming with
  | nil =>
    rw [List.flatMap_nil, List.nil_append] at whole
    rcases brings.read_rest (whole ▸ last.2) with ⟨-, e, answer⟩ | ⟨whole, -⟩
    · have ends : (chunked prompt).script source = ([], .undecodable e) := script_of_failure answer
      rw [ends]
      exact ⟨List.nil_prefix, e, rfl⟩
    · exact absurd whole broken
  | cons line lines ih =>
    rw [List.forall_mem_cons] at unbroken
    rw [List.flatMap_cons, List.append_assoc, List.append_assoc, List.singleton_append] at whole
    rcases brings.read_line unbroken.1 whole with ⟨-, e, answer⟩ | ⟨after, _, answer, behind, later⟩
    · have ends : (chunked prompt).script source = ([], .undecodable e) := script_of_failure answer
      rw [ends]
      exact ⟨List.nil_prefix, e, rfl⟩
    · have first : (chunked prompt).read source = (.ok line, after) := answer
      obtain ⟨fewer, ends⟩ := ih later unbroken.2 behind.symm
      rw [script_of_line first]
      exact ⟨List.cons_prefix_cons.2 ⟨rfl, fewer⟩, ends⟩

end Brings

end Chunked

end ChainShell.LineReader
