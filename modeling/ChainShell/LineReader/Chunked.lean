import ChainShell.LineReader.Plain

namespace ChainShell.LineReader

open Text

def chunkSize : Nat := 8192

/-- Bytes on their way to lines: those not yet taken, those of an incomplete character, whether a
carriage return waits for what follows it, and text that has not been read. -/
structure Chunked where
  untaken : Bytes
  undecoded : Bytes
  held : Bool
  buffer : Text
  deriving DecidableEq, Repr

namespace Chunked

/-- A source of the given bytes, of which none has been taken. -/
def ofBytes (bytes : Bytes) : Chunked := ⟨bytes, [], false, []⟩

/-- A carriage return that waits counts as one character. -/
def heldLength (held : Bool) : Nat :=
  if held then 1 else 0

def remaining (source : Chunked) : Nat :=
  source.untaken.length + source.undecoded.length + heldLength source.held + source.buffer.length

/-- Unifies the line breaks of a text; a carriage return at its end waits for what follows. -/
def holdEnd (text : Text) : Text × Bool :=
  if text.getLast? = some '\r' then (unifyBreaks text.dropLast, true) else (unifyBreaks text, false)

theorem length_holdEnd_le (text : Text) :
    (holdEnd text).1.length + heldLength (holdEnd text).2 ≤ text.length := by
  rw [holdEnd]
  split
  · rename_i last
    have bound := length_unifyBreaks_le text.dropLast
    rw [List.length_dropLast] at bound
    have some : 0 < text.length := List.length_pos_iff.2 fun empty => by simp [empty] at last
    simp only [heldLength, if_true]
    omega
  · simpa [heldLength] using length_unifyBreaks_le text

/-- Text behind the carriage return that waited for it, if any. -/
def release (held : Bool) (text : Text) : Text :=
  if held then '\r' :: text else text

theorem length_release (held : Bool) (text : Text) :
    (release held text).length = heldLength held + text.length := by
  cases held
  · simp [release, heldLength]
  · simp only [release, heldLength, if_true, List.length_cons]
    omega

/-- Decoded text as it is put at hand; no text leaves a carriage return waiting. -/
def receive (held : Bool) (text : Text) : Text × Bool :=
  if text = [] then ([], held) else holdEnd (release held text)

theorem length_receive_le (held : Bool) (text : Text) :
    (receive held text).1.length + heldLength (receive held text).2 ≤ heldLength held + text.length := by
  rw [receive]
  split
  · simp
  · exact Nat.le_trans (length_holdEnd_le _) (Nat.le_of_eq (length_release _ _))

/-- Takes the next chunk, in place of the text at hand; nothing if there is none. At the end a
carriage return that still waits is a line break, and an incomplete character an error. -/
def next (source : Chunked) : Option (Except Utf8.DecodeError Chunked) :=
  if source.untaken = [] then
    match Utf8.decode source.undecoded with
    | .error e => some (.error e)
    | .ok _ => if source.held then some (.ok ⟨[], [], false, ['\n']⟩) else none
  else
    match Utf8.decodeChunk (source.undecoded ++ source.untaken.take chunkSize) with
    | .error e => some (.error e)
    | .ok (text, undecoded) =>
      some (.ok ⟨source.untaken.drop chunkSize, undecoded, (receive source.held text).2,
        (receive source.held text).1⟩)

/-- A chunk yields no more text than it has bytes. -/
theorem remaining_next_le {source more : Chunked} (taken : source.next = some (.ok more)) :
    more.remaining + source.buffer.length ≤ source.remaining := by
  rw [next] at taken
  split at taken
  · split at taken
    · cases taken
    · split at taken
      · rename_i waiting
        cases taken
        simp [remaining, heldLength, waiting]
      · cases taken
  · split at taken
    · cases taken
    · rename_i text undecoded decoded
      cases taken
      have bytes := Utf8.length_decodeChunk_le decoded
      have received := length_receive_le source.held text
      simp only [remaining, List.length_append, List.length_take, List.length_drop] at *
      omega

/-- What the end of the input is measured by: chunks still to come, and a carriage return. -/
def pending (source : Chunked) : Nat :=
  2 * source.untaken.length + heldLength source.held

theorem pending_next_lt {source more : Chunked} (taken : source.next = some (.ok more)) :
    more.pending < source.pending := by
  rw [next] at taken
  split at taken
  · split at taken
    · cases taken
    · split at taken
      · rename_i waiting
        cases taken
        simp [pending, heldLength, waiting]
      · cases taken
  · rename_i nonempty
    split at taken
    · cases taken
    · rename_i text undecoded _
      cases taken
      have some := List.length_pos_iff.2 nonempty
      have bit : heldLength (receive source.held text).2 ≤ 1 := by
        cases (receive source.held text).2 <;> simp [heldLength]
      simp only [pending, List.length_drop, chunkSize]
      omega

/-- Reads up to the next line break, or else all that is left; an empty text means that nothing was
left. A chunk is taken and decoded only when no complete line is at hand, and bytes that are not text
fail the read that takes their chunk. -/
def nextLine (source : Chunked) : Except Utf8.DecodeError (Text × Chunked) :=
  if source.buffer.contains '\n' then
    .ok ((splitLine source.buffer).1, { source with buffer := (splitLine source.buffer).2 })
  else
    match _taken : source.next with
    | none => .ok (source.buffer, { source with buffer := [] })
    | some (.error e) => .error e
    | some (.ok more) =>
      match nextLine more with
      | .error e => .error e
      | .ok (text, after) => .ok (source.buffer ++ text, after)
termination_by source.pending
decreasing_by exact pending_next_lt _taken

/-- What is read and what is left are no more than there was. -/
theorem remaining_nextLine_le {source after : Chunked} {text : Text}
    (read : source.nextLine = .ok (text, after)) : text.length + after.remaining ≤ source.remaining := by
  fun_induction nextLine source generalizing text after with
  | case1 source complete =>
    cases read
    have whole := congrArg List.length (splitLine_append source.buffer)
    rw [List.length_append] at whole
    simp only [remaining]
    omega
  | case2 source _ taken =>
    cases read
    simp only [remaining, List.length_nil]
    omega
  | case3 source _ e taken => cases read
  | case4 source _ more taken e failed ih => cases read
  | case5 source _ more taken rest final answer ih =>
    cases read
    have bound := ih answer
    have chunk := remaining_next_le taken
    rw [List.length_append]
    omega

/-- Reads one line. After bytes that are not text every further read fails in the same way. -/
def read (source : Chunked) : Except ReadFailure Text × Chunked :=
  match source.nextLine with
  | .error e => (.error (.undecodable e), source)
  | .ok ([], after) => (.error endOfText, after)
  | .ok (line, after) => (.ok (dropLineBreaks line), after)

end Chunked

def chunked (prompt : Text) : LineReader Chunked where
  prompt := some prompt
  read := Chunked.read
  remaining := Chunked.remaining
  remaining_lt := by
    intro source line rest answer
    rw [Chunked.read] at answer
    split at answer
    · cases answer
    · cases answer
    · rename_i text after nonempty done
      cases answer
      have bound := Chunked.remaining_nextLine_le done
      have some : 0 < text.length := List.length_pos_iff.2 nonempty
      omega

end ChainShell.LineReader
