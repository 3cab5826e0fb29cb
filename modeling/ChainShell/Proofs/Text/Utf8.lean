import ChainShell.Text.Utf8
import Mathlib.Data.List.Infix

namespace ChainShell.Utf8

theorem ofNat_eq (b : UInt8) {m : Nat} (value : m = b.toNat) : UInt8.ofNat m = b := by
  rw [value, UInt8.ofNat_toNat]

theorem within_eq_true_iff {low high : Nat} {b : UInt8} :
    within low high b = true ↔ low ≤ b.toNat ∧ b.toNat ≤ high := by
  rw [within, Bool.and_eq_true, decide_eq_true_iff, decide_eq_true_iff]

theorem isContinuation_eq_true_iff {b : UInt8} :
    isContinuation b = true ↔ 0x80 ≤ b.toNat ∧ b.toNat ≤ 0xBF :=
  within_eq_true_iff

theorem isSecond_eq_true_iff {first second : UInt8} : isSecond first second = true ↔
    0x80 ≤ second.toNat ∧ second.toNat ≤ 0xBF ∧ (first.toNat = 0xE0 → 0xA0 ≤ second.toNat) ∧
      (first.toNat = 0xED → second.toNat ≤ 0x9F) ∧ (first.toNat = 0xF0 → 0x90 ≤ second.toNat) ∧
      (first.toNat = 0xF4 → second.toNat ≤ 0x8F) := by
  rw [isSecond]
  split <;> simp only [isContinuation, within_eq_true_iff] <;> grind

/-- The bytes that stand for a code point. The ranges of the first two keep out longer forms of what fewer
bytes say, surrogates and what is above 10FFFF, so a code point has one sequence. -/
inductive Sequence : Bytes → Nat → Prop
  | one {a : UInt8} {n : Nat} : a.toNat < 0x80 → n = a.toNat → Sequence [a] n
  | two {a b : UInt8} {n : Nat} : 0xC2 ≤ a.toNat → a.toNat < 0xE0 → isContinuation b = true →
      n = (a.toNat - 0xC0) * 0x40 + payload b → Sequence [a, b] n
  | three {a b c : UInt8} {n : Nat} : 0xE0 ≤ a.toNat → a.toNat < 0xF0 → isSecond a b = true →
      isContinuation c = true → n = (a.toNat - 0xE0) * 0x1000 + payload b * 0x40 + payload c →
      Sequence [a, b, c] n
  | four {a b c d : UInt8} {n : Nat} : 0xF0 ≤ a.toNat → a.toNat < 0xF5 → isSecond a b = true →
      isContinuation c = true → isContinuation d = true →
      n = (a.toNat - 0xF0) * 0x40000 + payload b * 0x1000 + payload c * 0x40 + payload d →
      Sequence [a, b, c, d] n

namespace Sequence

variable {bytes rest : Bytes} {n : Nat}

theorem head_append (stands : Sequence bytes n) (rest : Bytes) :
    head (bytes ++ rest) = .char (Char.ofNat n) rest := by
  cases stands with
  | one ascii value =>
    subst value
    simp only [List.cons_append, List.nil_append, head, if_pos ascii]
  | @two a b _ low high continues value =>
    have notAscii : ¬a.toNat < 0x80 := by omega
    subst value
    simp only [List.cons_append, List.nil_append, head, if_neg notAscii, if_neg (Nat.not_lt.2 low),
      if_pos high, if_pos continues]
  | @three a b c _ low high second continues value =>
    have notAscii : ¬a.toNat < 0x80 := by omega
    have notStray : ¬a.toNat < 0xC2 := by omega
    subst value
    simp only [List.cons_append, List.nil_append, head, if_neg notAscii, if_neg notStray,
      if_neg (Nat.not_lt.2 low), if_pos high, second, continues, Bool.not_true, Bool.false_eq_true, if_false,
      if_true]
  | @four a b c d _ low high second third continues value =>
    have notAscii : ¬a.toNat < 0x80 := by omega
    have notStray : ¬a.toNat < 0xC2 := by omega
    have notTwo : ¬a.toNat < 0xE0 := by omega
    subst value
    simp only [List.cons_append, List.nil_append, head, if_neg notAscii, if_neg notStray, if_neg notTwo,
      if_neg (Nat.not_lt.2 low), if_pos high, second, third, continues, Bool.not_true, Bool.false_eq_true,
      if_false, if_true]

/-- A character stands at the head of bytes only as a sequence for it. -/
theorem of_head {c : Char} (standing : head bytes = .char c rest) :
    ∃ front n, Sequence front n ∧ c = Char.ofNat n ∧ bytes = front ++ rest := by
  unfold head at standing
  split at standing
  · cases standing
  · rename_i a tail
    dsimp only at standing
    repeat' split at standing
    all_goals first
      | (cases standing; done)
      | skip
    all_goals cases standing
    · exact ⟨[a], _, .one ‹_› rfl, rfl, rfl⟩
    · exact ⟨_, _, .two (by omega) ‹_› ‹_› rfl, rfl, rfl⟩
    · exact ⟨_, _, .three (by omega) ‹_› (by grind) ‹_› rfl, rfl, rfl⟩
    · exact ⟨_, _, .four (by omega) ‹_› (by grind) (by grind) ‹_› rfl, rfl, rfl⟩

theorem of_encodeChar (c : Char) : Sequence (encodeChar c) c.toNat := by
  have valid : c.toNat < 0xD800 ∨ 0xDFFF < c.toNat ∧ c.toNat < 0x110000 := c.valid
  rw [encodeChar]
  generalize c.toNat = n at valid ⊢
  split
  · apply one <;> simp only [UInt8.toNat_ofNat'] <;> omega
  split
  · apply two <;> simp only [UInt8.toNat_ofNat', isContinuation_eq_true_iff, payload] <;> omega
  split
  · apply three <;>
      simp only [UInt8.toNat_ofNat', isContinuation_eq_true_iff, isSecond_eq_true_iff, payload] <;> omega
  · apply four <;>
      simp only [UInt8.toNat_ofNat', isContinuation_eq_true_iff, isSecond_eq_true_iff, payload] <;> omega

/-- Every sequence stands for a character: surrogates have none. -/
theorem exists_char (stands : Sequence bytes n) : ∃ c : Char, c.toNat = n := by
  have valid : n.isValidChar := by
    rw [Nat.isValidChar]
    cases stands with
    | one ascii value => omega
    | two low high continues value =>
      simp only [isContinuation_eq_true_iff, payload] at continues value
      omega
    | three low high second continues value =>
      simp only [isContinuation_eq_true_iff, isSecond_eq_true_iff, payload] at second continues value
      omega
    | four low high second third continues value =>
      simp only [isContinuation_eq_true_iff, isSecond_eq_true_iff, payload] at second third continues value
      omega
  exact ⟨Char.ofNatAux n valid, rfl⟩

theorem encodeChar_ofNat (stands : Sequence bytes n) : encodeChar (Char.ofNat n) = bytes := by
  obtain ⟨char, rfl⟩ := stands.exists_char
  rw [Char.ofNat_toNat, encodeChar]
  cases stands with
  | one ascii value => rw [if_pos (by omega), ofNat_eq _ value]
  | @two a b _ low high continues value =>
    simp only [isContinuation_eq_true_iff, payload] at continues value
    rw [if_neg (by omega), if_pos (by omega), ofNat_eq a (by omega), ofNat_eq b (by omega)]
  | @three a b c _ low high second continues value =>
    simp only [isContinuation_eq_true_iff, isSecond_eq_true_iff, payload] at second continues value
    rw [if_neg (by omega), if_neg (by omega), if_pos (by omega), ofNat_eq a (by omega),
      ofNat_eq b (by omega), ofNat_eq c (by omega)]
  | @four a b c d _ low high second third continues value =>
    simp only [isContinuation_eq_true_iff, isSecond_eq_true_iff, payload] at second third continues value
    rw [if_neg (by omega), if_neg (by omega), if_neg (by omega), ofNat_eq a (by omega),
      ofNat_eq b (by omega), ofNat_eq c (by omega), ofNat_eq d (by omega)]

end Sequence

theorem head_encodeChar_append (c : Char) (rest : Bytes) : head (encodeChar c ++ rest) = .char c rest := by
  rw [(Sequence.of_encodeChar c).head_append, Char.ofNat_toNat]

theorem eq_of_head {bytes rest : Bytes} {c : Char} (standing : head bytes = .char c rest) :
    bytes = encodeChar c ++ rest := by
  obtain ⟨front, n, stands, rfl, rfl⟩ := Sequence.of_head standing
  rw [stands.encodeChar_ofNat]

/-- What follows bytes that begin no character does not repair them. -/
theorem head_append_of_invalid {bytes : Bytes} {count : Nat} {defect : Defect}
    (broken : head bytes = .invalid count defect) (more : Bytes) :
    head (bytes ++ more) = .invalid count defect := by
  unfold head at broken
  split at broken
  · cases broken
  · rename_i a tail
    dsimp only at broken
    repeat' split at broken
    all_goals first
      | (cases broken; done)
      | (rw [← broken]; simp only [List.cons_append, head, Bool.false_eq_true, if_true, if_false, *])

/-- Whether no character stands at the head of some bytes. -/
def Stuck (bytes : Bytes) : Prop :=
  ∀ c rest, head bytes ≠ .char c rest

theorem stuck_nil : Stuck [] := by
  intro c rest same
  cases same

theorem stuck_of_invalid {bytes : Bytes} {count : Nat} {defect : Defect}
    (broken : head bytes = .invalid count defect) : Stuck bytes := by
  intro c rest same
  cases broken.symm.trans same

theorem eq_nil_of_head {bytes : Bytes} (standing : head bytes = .empty) : bytes = [] := by
  unfold head at standing
  split at standing
  · rfl
  · dsimp only at standing
    repeat' split at standing
    all_goals cases standing

theorem encode_nil : encode [] = [] := rfl

theorem encode_cons (c : Char) (text : Text) : encode (c :: text) = encodeChar c ++ encode text := rfl

theorem encode_append (one other : Text) : encode (one ++ other) = encode one ++ encode other :=
  List.flatMap_append

/-- Bytes decode to a text with a tail at whose head no character stands. -/
structure Decodes (bytes : Bytes) (text : Text) (tail : Bytes) : Prop where
  whole : bytes = encode text ++ tail
  stuck : Stuck tail

namespace Decodes

variable {bytes tail rest : Bytes} {text : Text}

theorem of_stuck (stuck : Stuck bytes) : Decodes bytes [] bytes :=
  ⟨rfl, stuck⟩

theorem cons {c : Char} (standing : head bytes = .char c rest) (decodes : Decodes rest text tail) :
    Decodes bytes (c :: text) tail :=
  ⟨by rw [eq_of_head standing, decodes.whole, encode_cons, List.append_assoc], decodes.stuck⟩

theorem exists_of_bytes (bytes : Bytes) : ∃ text tail, Decodes bytes text tail := by
  induction size : bytes.length using Nat.strongRecOn generalizing bytes with
  | ind size ih =>
    by_cases stuck : Stuck bytes
    · exact ⟨[], bytes, of_stuck stuck⟩
    · rw [Stuck] at stuck
      push Not at stuck
      obtain ⟨c, rest, standing⟩ := stuck
      obtain ⟨text, tail, decodes⟩ := ih _ (size ▸ length_lt_of_head standing) rest rfl
      exact ⟨c :: text, tail, decodes.cons standing⟩

/-- Every text that the bytes begin with is a beginning of the one they decode to. -/
theorem longest (decodes : Decodes bytes text tail) {other : Text} (begins : encode other <+: bytes) :
    other <+: text := by
  obtain ⟨whole, stuck⟩ := decodes
  subst whole
  induction other generalizing text with
  | nil => exact List.nil_prefix
  | cons c other ih =>
    obtain ⟨more, same⟩ := begins
    rw [encode_cons, List.append_assoc] at same
    cases text with
    | nil =>
      refine absurd ?_ (stuck c (encode other ++ more))
      rw [show tail = encode [] ++ tail from rfl, ← same, head_encodeChar_append]
    | cons c' text =>
      have heads := congrArg head same
      rw [encode_cons, List.append_assoc, head_encodeChar_append, head_encodeChar_append] at heads
      injection heads with char further
      subst char
      exact List.cons_prefix_cons.2 ⟨rfl, ih ⟨more, further⟩⟩

theorem unique {other : Text} {tail' : Bytes} (decodes : Decodes bytes text tail)
    (decodes' : Decodes bytes other tail') : other = text ∧ tail' = tail := by
  have fewer := decodes.longest ⟨tail', decodes'.whole.symm⟩
  have more := decodes'.longest ⟨tail, decodes.whole.symm⟩
  obtain rfl := fewer.eq_of_length_le more.length_le
  exact ⟨rfl, List.append_cancel_left (decodes'.whole.symm.trans decodes.whole)⟩

/-- Bytes in two parts decode to what the first part decodes to and then to what its tail and the second part
do. -/
theorem append {front : Text} {left more : Bytes} (decodes : Decodes bytes front left)
    (further : Decodes (left ++ more) text tail) : Decodes (bytes ++ more) (front ++ text) tail := by
  refine ⟨?_, further.stuck⟩
  rw [decodes.whole, List.append_assoc, further.whole, encode_append, List.append_assoc]

/-- Decoding answers with this text and this tail, unless the tail is beyond repair. -/
theorem decodeFrom_eq (decodes : Decodes bytes text tail) (total : Nat) (decoded : List Char) :
    decodeFrom total decoded bytes =
      match head tail with
      | .invalid count defect => .error ⟨tail.headD 0, total - tail.length, count, defect⟩
      | _ => .ok (decoded.reverse ++ text, tail) := by
  obtain ⟨rfl, stuck⟩ := decodes
  induction text generalizing decoded with
  | nil =>
    rw [encode_nil, List.nil_append, List.append_nil, decodeFrom]
    split <;> rename_i step
    · rw [step, eq_nil_of_head step]
    · exact absurd step (stuck _ _)
    · rw [step]
    · rw [step]
  | cons c text ih =>
    rw [encode_cons, List.append_assoc, decodeFrom]
    split <;> rename_i step <;> rw [head_encodeChar_append] at step <;> cases step
    rw [ih, List.reverse_cons, List.append_assoc, List.singleton_append]

theorem decodeChunk_eq (decodes : Decodes bytes text tail) :
    (∃ count defect, head tail = .invalid count defect) ∧ (∃ e, decodeChunk bytes = .error e) ∨
      (∀ count defect, head tail ≠ .invalid count defect) ∧ decodeChunk bytes = .ok (text, tail) := by
  rw [decodeChunk, decodes.decodeFrom_eq]
  split
  · rename_i count defect broken
    exact .inl ⟨⟨count, defect, broken⟩, _, rfl⟩
  · rename_i sound
    exact .inr ⟨sound, rfl⟩

theorem decode_eq (decodes : Decodes bytes text []) : decode bytes = .ok text := by
  rw [decode, decodeChunk, decodes.decodeFrom_eq]
  rfl

theorem exists_decode_eq_error (decodes : Decodes bytes text tail) (left : tail ≠ []) :
    ∃ e, decode bytes = .error e := by
  obtain ⟨b, rest, rfl⟩ := List.exists_cons_of_ne_nil left
  rcases decodes.decodeChunk_eq with ⟨-, e, failed⟩ | ⟨-, done⟩
  · exact ⟨e, by rw [decode, failed]⟩
  · exact ⟨_, by rw [decode, done]⟩

end Decodes

theorem decode_encode (text : Text) : decode (encode text) = .ok text :=
  Decodes.decode_eq ⟨(List.append_nil _).symm, stuck_nil⟩

end ChainShell.Utf8
