import ChainShell.Number.Numeral
import ChainShell.Text.Quoted

namespace ChainShell.Utf8

def encodeChar (c : Char) : Bytes :=
  let n := c.toNat
  if n < 0x80 then [UInt8.ofNat n]
  else if n < 0x800 then [UInt8.ofNat (0xC0 + n / 0x40), UInt8.ofNat (0x80 + n % 0x40)]
  else if n < 0x10000 then
    [UInt8.ofNat (0xE0 + n / 0x1000), UInt8.ofNat (0x80 + n / 0x40 % 0x40),
      UInt8.ofNat (0x80 + n % 0x40)]
  else
    [UInt8.ofNat (0xF0 + n / 0x40000), UInt8.ofNat (0x80 + n / 0x1000 % 0x40),
      UInt8.ofNat (0x80 + n / 0x40 % 0x40), UInt8.ofNat (0x80 + n % 0x40)]

def encode (text : Text) : Bytes :=
  text.flatMap encodeChar

inductive Defect where
  | startByte
  | continuationByte
  | endOfData
  deriving DecidableEq, Repr

def Defect.message : Defect → Text
  | .startByte => "invalid start byte".toList
  | .continuationByte => "invalid continuation byte".toList
  | .endOfData => "unexpected end of data".toList

/-- Bytes that are not UTF-8: the first of them, where it is, how many belong to it, and why. -/
structure DecodeError where
  byte : UInt8
  position : Nat
  count : Nat
  defect : Defect
  deriving DecidableEq, Repr

/-- The wording of a decoding error: one byte is named by its value, several by their positions. -/
def DecodeError.message (e : DecodeError) : Text :=
  let place :=
    if e.count = 1 then
      "byte 0x".toList ++ Text.hexDigits 2 e.byte.toNat ++ " in position ".toList ++
        Numeral.ofNat e.position
    else
      "bytes in position ".toList ++ Numeral.ofNat e.position ++ '-' ::
        Numeral.ofNat (e.position + e.count - 1)
  "'utf-8' codec can't decode ".toList ++ place ++ ": ".toList ++ e.defect.message

/-- What stands at the head of some bytes: nothing, a character and the bytes after it, a beginning
of a character that the bytes do not complete, or `count` bytes that begin no character. -/
inductive Head where
  | empty
  | char (c : Char) (rest : Bytes)
  | incomplete
  | invalid (count : Nat) (defect : Defect)

def within (low high : Nat) (b : UInt8) : Bool :=
  low ≤ b.toNat && b.toNat ≤ high

def isContinuation (b : UInt8) : Bool :=
  within 0x80 0xBF b

/-- The second bytes that may follow a first byte from E0 on: overlong forms, surrogates and code
points above 10FFFF are excluded there. -/
def isSecond (first second : UInt8) : Bool :=
  match first.toNat with
  | 0xE0 => within 0xA0 0xBF second
  | 0xED => within 0x80 0x9F second
  | 0xF0 => within 0x90 0xBF second
  | 0xF4 => within 0x80 0x8F second
  | _ => isContinuation second

/-- The six bits that a continuation byte carries. -/
def payload (b : UInt8) : Nat :=
  b.toNat % 0x40

/-- Reads what stands at the head of some bytes, by strict UTF-8. A beginning that the end of the bytes
cuts off is told from one that no further byte can repair. -/
def head : Bytes → Head
  | [] => .empty
  | a :: rest =>
    let n := a.toNat
    if n < 0x80 then .char (Char.ofNat n) rest
    else if n < 0xC2 then .invalid 1 .startByte
    else if n < 0xE0 then
      match rest with
      | [] => .incomplete
      | b :: rest =>
        if isContinuation b then .char (Char.ofNat ((n - 0xC0) * 0x40 + payload b)) rest
        else .invalid 1 .continuationByte
    else if n < 0xF0 then
      match rest with
      | [] => .incomplete
      | b :: rest =>
        if !isSecond a b then .invalid 1 .continuationByte
        else
          match rest with
          | [] => .incomplete
          | c :: rest =>
            if isContinuation c then
              .char (Char.ofNat ((n - 0xE0) * 0x1000 + payload b * 0x40 + payload c)) rest
            else .invalid 2 .continuationByte
    else if n < 0xF5 then
      match rest with
      | [] => .incomplete
      | b :: rest =>
        if !isSecond a b then .invalid 1 .continuationByte
        else
          match rest with
          | [] => .incomplete
          | c :: rest =>
            if !isContinuation c then .invalid 2 .continuationByte
            else
              match rest with
              | [] => .incomplete
              | d :: rest =>
                if isContinuation d then
                  .char (Char.ofNat ((n - 0xF0) * 0x40000 + payload b * 0x1000 + payload c * 0x40 +
                    payload d)) rest
                else .invalid 3 .continuationByte
    else .invalid 1 .startByte

/-- A character takes at least one byte. -/
theorem length_lt_of_head {bytes rest : Bytes} {c : Char} (h : head bytes = .char c rest) :
    rest.length < bytes.length := by
  unfold head at h
  split at h
  · cases h
  · dsimp only at h
    repeat' split at h
    all_goals first
      | (cases h; done)
      | (injection h with _ tail; subst tail; simp only [List.length_cons]; omega)

/-- Decodes what is complete and returns it with the bytes of an incomplete character at the end;
the first bytes that begin no character are an error. Positions count from the start of all `total`
bytes, of which the given ones are the last. -/
def decodeFrom (total : Nat) (decoded : List Char) (bytes : Bytes) :
    Except DecodeError (Text × Bytes) :=
  match _step : head bytes with
  | .empty => .ok (decoded.reverse, [])
  | .char c rest => decodeFrom total (c :: decoded) rest
  | .incomplete => .ok (decoded.reverse, bytes)
  | .invalid count defect => .error ⟨bytes.headD 0, total - bytes.length, count, defect⟩
termination_by bytes.length
decreasing_by exact length_lt_of_head _step

/-- Decodes one chunk of a stream; the second part of the answer is to be put before the next. -/
def decodeChunk (bytes : Bytes) : Except DecodeError (Text × Bytes) :=
  decodeFrom bytes.length [] bytes

theorem length_decodeFrom_le {total : Nat} {decoded : List Char} {bytes rest : Bytes} {text : Text}
    (done : decodeFrom total decoded bytes = .ok (text, rest)) :
    text.length + rest.length ≤ decoded.length + bytes.length := by
  fun_induction decodeFrom total decoded bytes with
  | case1 decoded bytes step => cases done; simp
  | case2 decoded bytes c tail step ih =>
    have shorter := length_lt_of_head step
    have bound := ih done
    simp only [List.length_cons] at bound
    omega
  | case3 decoded bytes step => cases done; simp
  | case4 decoded bytes count defect step => cases done

theorem length_decodeChunk_le {bytes rest : Bytes} {text : Text}
    (done : decodeChunk bytes = .ok (text, rest)) : text.length + rest.length ≤ bytes.length := by
  simpa using length_decodeFrom_le done

/-- Decodes bytes that nothing follows, so an incomplete character is an error too. -/
def decode (bytes : Bytes) : Except DecodeError Text :=
  match decodeChunk bytes with
  | .error e => .error e
  | .ok (text, []) => .ok text
  | .ok (_, b :: rest) =>
    .error ⟨b, bytes.length - (rest.length + 1), rest.length + 1, .endOfData⟩

end ChainShell.Utf8
