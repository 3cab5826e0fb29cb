import ChainShell.Machine.Escape
import ChainShell.Machine.Options
import ChainShell.Text.Printable

namespace ChainShell.Machine

/-- A program that was asked for something it cannot do. -/
def Result.refused (files : FileTree) (process : Process) (status : Int) : Result :=
  .plain files process [] status

/-- A program whose options are not understood is refused with a status, else it goes on. -/
def withOptions (flags valued : List Char) (status : Int)
    (act : Options → FileTree → Process → Result) : Program := fun files process =>
  match Options.read flags valued process.args with
  | none => .refused files process status
  | some options => act options files process

def echoEscapes : Escapes := ⟨true, true, false, true⟩

/-- An argument that consists of options of `echo` only. -/
def isEchoOption : Text → Bool
  | '-' :: c :: rest => (c :: rest).all fun c => c == 'n' || c == 'e' || c == 'E'
  | _ => false

def echo : Program := fun files process =>
  let options := process.args.takeWhile isEchoOption
  let operands := process.args.drop options.length
  let letters := options.flatten
  let text := Text.join [' '] operands
  let interprets := (letters.filter fun c => c == 'e' || c == 'E').getLast? == some 'e'
  let (data, stopped) := if interprets then echoEscapes.expand text else (bytes text, false)
  .plain files process (if stopped || letters.contains 'n' then data else data ++ [10]) 0

def printf : Program := fun files process =>
  match process.args with
  | [] => .refused files process 1
  | format :: operands =>
    let (data, status) :=
      printFormat ⟨false, true, true, true⟩ ⟨true, true, true, true⟩ format operands
    .plain files process data status

def numberLines (first : Nat) : List Bytes → List Bytes
  | [] => []
  | data :: rest =>
    let number := Numeral.ofNat first
    (bytes (List.replicate (6 - number.length) ' ' ++ number ++ ['\t']) ++ data) ::
      numberLines (first + 1) rest

/-- Lines as they stand, each with its line feed if it has one. -/
def rawLines (data : Bytes) : List Bytes :=
  let (all, unfinished) := lines data
  if unfinished then all.dropLast.map (· ++ [10]) ++ all.getLast?.toList else all.map (· ++ [10])

def cat : Program := withOptions ['u', 'n'] [] 1 fun options files process =>
  ofContents files process options.operands fun contents =>
    let data := contents.flatMap (·.2)
    if options.has 'n' then (numberLines 1 (rawLines data)).flatten else data

def isBlankByte (b : UInt8) : Bool :=
  b == 32 || (9 ≤ b && b ≤ 13)

/-- Counts words, of which each has a printable character. -/
def countWords (text : Text) : Nat :=
  let (count, _) := text.foldl (fun (count, within) c =>
    if c == ' ' || ('\t' ≤ c && c ≤ '\r') then (count, false)
    else if within || !Text.isPrintable c then (count, within)
    else (count + 1, true)) (0, false)
  count

/-- The text of some bytes, those that are no characters being left out. -/
def readable : Nat → Bytes → List Char → Text
  | 0, _, read => read.reverse
  | fuel + 1, data, read =>
    match Utf8.head data with
    | .empty => read.reverse
    | .char c rest => readable fuel rest (c :: read)
    | .incomplete | .invalid _ _ => readable fuel (data.drop 1) read

def textOf (data : Bytes) : Text :=
  readable data.length data []

/-- Lines, words, characters and bytes, of which the options choose. -/
def counts (options : Options) (data : Bytes) : List Nat :=
  let chosen := options.given.map (·.1)
  let chosen := if chosen.isEmpty then ['l', 'w', 'c'] else chosen
  let text := if chosen.contains 'w' || chosen.contains 'm' then textOf data else []
  [('l', data.count 10), ('w', countWords text), ('m', text.length), ('c', data.length)].filterMap
    fun (letter, number) => if chosen.contains letter then some number else none

def countLine (width : Nat) (numbers : List Nat) (name : Text) : Bytes :=
  let columns := numbers.map fun number =>
    let digits := Numeral.ofNat number
    List.replicate (width - digits.length) ' ' ++ digits
  line (Text.join [' '] columns ++ (if name.isEmpty then [] else ' ' :: name))

def wc : Program := withOptions ['l', 'w', 'm', 'c'] [] 1 fun options files process =>
  ofReadable files process options.operands fun contents =>
    let all := contents.map fun (name, data) => (name, counts options data)
    let total := all.foldl (fun sums (_, numbers) => List.zipWith (· + ·) sums numbers)
      (counts options [])
    let single := options.operands.length < 2 && total.length == 1
    let isPlain := fun (name : Text) => match readFile files process.directory name with
      | .data _ => name != ['-']
      | _ => false
    let wide := contents.any fun (name, _) => !isPlain name
    let size := contents.foldl (fun size content => size + content.2.length) 0
    let width := if single then 1 else max (if wide then 7 else 1) (Numeral.ofNat size).length
    let rows := all.flatMap fun (name, numbers) =>
      countLine width numbers (if options.operands.isEmpty then [] else name)
    rows ++ if options.operands.length < 2 then [] else countLine width total "total".toList

/-- How much to take: a number with a sign that changes its meaning. -/
structure Amount where
  sign : Option Char
  number : Nat
  deriving DecidableEq, Repr

/-- Reads an amount, with a unit if it has one. -/
def Amount.read? (text : Text) : Option Amount := do
  let (sign, rest) := match text with
    | '-' :: rest => (some '-', rest)
    | '+' :: rest => (some '+', rest)
    | rest => (none, rest)
  let number ← readNat (rest.takeWhile Numeral.isDigit)
  let unit ← match rest.dropWhile Numeral.isDigit with
    | [] => some 1
    | ['b'] => some 512
    | ['k'] => some 1024
    | ['K'] => some 1024
    | ['M'] => some 1048576
    | ['k', 'B'] => some 1000
    | _ => none
  return ⟨sign, number * unit⟩

/-- An amount in lines or in bytes, and the names of the files. -/
structure Portion where
  inBytes : Bool
  amount : Amount
  operands : List Text
  headers : Bool
  deriving DecidableEq, Repr

/-- Reads the arguments of a program that takes a portion of its input; a number behind a hyphen may
come first, with `single` only before one file, and counts lines. -/
def Portion.read? (single : Bool) (args : List Text) : Option Portion := do
  let args := match args with
    | ('-' :: digits) :: rest =>
      if (readNat digits).isSome && (!single || rest.length < 2) then ['-', 'n'] :: digits :: rest
      else args
    | _ => args
  let options ← Options.read ['q', 'v'] ['n', 'c'] args
  let (inBytes, text) :=
    match (options.given.filter fun (c, _) => c == 'n' || c == 'c').getLast? with
    | some (letter, text) => (letter == 'c', text)
    | none => (false, ['1', '0'])
  let amount ← Amount.read? text
  return ⟨inBytes, amount, options.operands,
    !options.has 'q' && (options.has 'v' || 1 < options.operands.length)⟩

def headerName (name : Text) : Text :=
  if name = ['-'] then "standard input".toList else name

/-- Portions one after the other, with headers if there are several. -/
def withHeaders (headers : Bool) (portions : List (Text × Bytes)) : Bytes :=
  if !headers then portions.flatMap (·.2)
  else
    [10].intercalate <| portions.map fun (name, data) =>
      line ("==> ".toList ++ headerName name ++ " <==".toList) ++ data

/-- The beginning of some bytes, or all but the end. -/
def headPortion (portion : Portion) (data : Bytes) : Bytes :=
  if portion.inBytes then
    if portion.amount.sign = some '-' then data.take (data.length - portion.amount.number)
    else data.take portion.amount.number
  else
    let all := rawLines data
    if portion.amount.sign = some '-' then (all.take (all.length - portion.amount.number)).flatten
    else (all.take portion.amount.number).flatten

/-- The end of some bytes, or all from a place on. -/
def tailPortion (portion : Portion) (data : Bytes) : Bytes :=
  if portion.inBytes then
    if portion.amount.sign = some '+' then data.drop (portion.amount.number - 1)
    else data.drop (data.length - portion.amount.number)
  else
    let all := rawLines data
    if portion.amount.sign = some '+' then (all.drop (portion.amount.number - 1)).flatten
    else (all.drop (all.length - portion.amount.number)).flatten

/-- Passes the beginning of its input on; of zeros without end it can take a number of bytes. -/
def head : Program := fun files process =>
  match Portion.read? false process.args with
  | none => .refused files process 1
  | some portion =>
    if portion.inBytes && portion.amount.sign == none && portion.operands.length == 1 &&
        portion.operands.any (readFile files process.directory · == .zeros) then
      .plain files process (List.replicate portion.amount.number 0) 0
    else
      ofContents files process portion.operands fun contents =>
        withHeaders portion.headers (contents.map fun (name, data) => (name, headPortion portion data))

def tail : Program := fun files process =>
  match Portion.read? true process.args with
  | none => .refused files process 1
  | some portion =>
    if portion.amount = ⟨none, 0⟩ then .refused files process 0
    else
      ofContents files process portion.operands fun contents =>
        withHeaders portion.headers (contents.map fun (name, data) => (name, tailPortion portion data))

def compareBytes : Bytes → Bytes → Ordering
  | [], [] => .eq
  | [], _ => .lt
  | _, [] => .gt
  | a :: as, b :: bs => (compare a b).then (compareBytes as bs)

def upperByte (b : UInt8) : UInt8 :=
  if 97 ≤ b && b ≤ 122 then b - 32 else b

def isDigitByte (b : UInt8) : Bool :=
  48 ≤ b && b ≤ 57

/-- The number that a line begins with, as a whole number and the number of its decimal places. -/
def leadingNumber (data : Bytes) : Int × Nat :=
  let data := data.dropWhile isBlankByte
  let (negative, data) := match data with
    | 45 :: rest => (true, rest)
    | rest => (false, rest)
  let whole := data.takeWhile isDigitByte
  let fraction := match data.dropWhile isDigitByte with
    | 46 :: rest => rest.takeWhile isDigitByte
    | _ => []
  let magnitude := (whole ++ fraction).foldl (fun n b => 10 * n + (b.toNat - 48)) 0
  (Numeral.signed negative magnitude, fraction.length)

/-- The order of the numbers that lines begin with. -/
def compareNumbers (a b : Bytes) : Ordering :=
  let (m, p) := leadingNumber a
  let (n, q) := leadingNumber b
  compare (m * Int.pow 10 q) (n * Int.pow 10 p)

/-- Drops lines that are equal to their neighbour. -/
def dropRepeats (equal : Bytes → Bytes → Bool) (all : List Bytes) : List Bytes :=
  all.foldr (fun data kept =>
    match kept with
    | [] => [data]
    | next :: more => if equal data next then data :: more else data :: next :: more) []

def sort : Program := withOptions ['r', 'n', 'u', 'f', 's', 'b'] [] 2 fun options files process =>
  let trimmed := fun (data : Bytes) =>
    if options.has 'b' then data.dropWhile isBlankByte else data
  let key := fun a b =>
    let (a, b) := (trimmed a, trimmed b)
    if options.has 'n' then compareNumbers a b
    else if options.has 'f' then compareBytes (a.map upperByte) (b.map upperByte)
    else compareBytes a b
  let order := fun a b =>
    if options.has 'u' || options.has 's' then key a b else (key a b).then (compareBytes a b)
  let le := fun a b => if options.has 'r' then (order b a).isLE else (order a b).isLE
  let result := ofContents files process options.operands fun contents =>
    let sorted := (contents.flatMap fun (_, data) => (lines data).1).mergeSort le
    unlines (if options.has 'u' then dropRepeats (fun a b => key a b == .eq) sorted else sorted)
  if result.status = 0 then result else { result with output := [], status := 2 }

/-- Runs of equal lines, as the first of them and their number. -/
def runs (equal : Bytes → Bytes → Bool) (all : List Bytes) : List (Bytes × Nat) :=
  all.foldr (fun data found =>
    match found with
    | [] => [(data, 1)]
    | (next, count) :: more =>
      if equal data next then (data, count + 1) :: more else (data, 1) :: (next, count) :: more) []

def uniq : Program := withOptions ['c', 'd', 'u', 'i'] [] 1 fun options files process =>
  let equal := fun (a b : Bytes) =>
    if options.has 'i' then a.map upperByte == b.map upperByte else a == b
  ofContents files process (options.operands.take 1) fun contents =>
    let all := runs equal (contents.flatMap fun (_, data) => (lines data).1)
    let kept := all.filter fun (_, count) =>
      (!options.has 'd' || 1 < count) && (!options.has 'u' || count == 1)
    unlines <| kept.map fun (data, count) =>
      if options.has 'c' then
        let number := Numeral.ofNat count
        bytes (List.replicate (7 - number.length) ' ' ++ number ++ [' ']) ++ data
      else data

def byteClass? (name : Text) : Option (List UInt8) :=
  let range := fun (low high : Nat) => (List.range (high + 1 - low)).map fun i => UInt8.ofNat (low + i)
  if name = "lower".toList then some (range 97 122)
  else if name = "upper".toList then some (range 65 90)
  else if name = "digit".toList then some (range 48 57)
  else if name = "alpha".toList then some (range 65 90 ++ range 97 122)
  else if name = "alnum".toList then some (range 48 57 ++ range 65 90 ++ range 97 122)
  else if name = "space".toList then some (range 9 13 ++ [32])
  else if name = "blank".toList then some [9, 32]
  else if name = "punct".toList then some (range 33 47 ++ range 58 64 ++ range 91 96 ++ range 123 126)
  else if name = "xdigit".toList then some (range 48 57 ++ range 65 70 ++ range 97 102)
  else if name = "print".toList then some (range 32 126)
  else if name = "graph".toList then some (range 33 126)
  else if name = "cntrl".toList then some (range 0 31 ++ [127])
  else none

/-- One byte of a set of bytes: an escape or the byte itself. -/
def readSetByte : Bytes → Option (UInt8 × Bytes)
  | [] => none
  | 92 :: rest =>
    match (⟨false, false, false, false⟩ : Escapes).read? (rest.map fun b => Char.ofNat b.toNat) with
    | some (byte, length) => some (byte, rest.drop length)
    | none =>
      match rest with
      | [] => some (92, [])
      | b :: rest => some (b, rest)
  | b :: rest => some (b, rest)

/-- The bytes of a set, in order: classes, ranges and single bytes. Each takes a byte at least. -/
def readSet : Nat → Bytes → Option (List UInt8)
  | 0, _ => some []
  | fuel + 1, data =>
    match data with
    | [] => some []
    | 91 :: 58 :: rest =>
      let name := rest.takeWhile (· != 58)
      match rest.dropWhile (· != 58), byteClass? (name.map fun b => Char.ofNat b.toNat) with
      | 58 :: 93 :: rest, some members => (readSet fuel rest).map (members ++ ·)
      | _, _ => none
    | _ =>
      match readSetByte data with
      | none => some []
      | some (low, 45 :: c :: rest) =>
        match readSetByte (c :: rest) with
        | none => none
        | some (high, rest) =>
          if high < low then none
          else
            let members := (List.range (high.toNat + 1 - low.toNat)).map fun i =>
              UInt8.ofNat (low.toNat + i)
            (readSet fuel rest).map (members ++ ·)
      | some (byte, rest) => (readSet fuel rest).map (byte :: ·)

def setOf? (text : Text) : Option (List UInt8) :=
  let data := bytes text
  readSet data.length data

/-- Drops a byte of a set that follows its like. -/
def squeeze (set : List UInt8) (data : Bytes) : Bytes :=
  data.foldr (fun b kept =>
    match kept with
    | [] => [b]
    | next :: more => if b == next && set.contains b then next :: more else b :: next :: more) []

/-- Replaces the bytes of one set by those of another, whose last byte stands for all that lack a
partner. -/
def translate (source target : List UInt8) (b : UInt8) : UInt8 :=
  match source.reverse.findIdx? (· == b) with
  | none => b
  | some fromEnd =>
    let place := source.length - 1 - fromEnd
    (target[place]?).getD (target.getLast?.getD b)

def complement (set : List UInt8) : List UInt8 :=
  ((List.range 256).map UInt8.ofNat).filter (!set.contains ·)

/-- Translates, deletes or squeezes bytes of its input. -/
def tr : Program := withOptions ['d', 's', 'c', 'C'] [] 1 fun options files process =>
  let sets := options.operands.mapM setOf?
  let complemented := options.has 'c' || options.has 'C'
  let first := fun set => if complemented then complement set else set
  let output : Option (Bytes → Bytes) :=
    match sets, options.has 'd', options.has 's' with
    | some [set], true, false => some fun data => data.filter (!(first set).contains ·)
    | some [set, squeezed], true, true =>
      some fun data => squeeze squeezed (data.filter (!(first set).contains ·))
    | some [set], false, true => some (squeeze (first set))
    | some [set, target], false, squeezes =>
      if target.isEmpty then none
      else some fun data =>
        let table := ((List.range 256).map fun i => translate (first set) target (UInt8.ofNat i)).toArray
        let translated := data.map fun b => table.getD b.toNat b
        if squeezes then squeeze target translated else translated
    | _, _, _ => none
  match output with
  | none => .refused files process 1
  | some output => ofContents files process [] fun contents => output (contents.flatMap (·.2))

/-- A decimal number as a whole number and the number of its decimal places. -/
def readDecimal (text : Text) : Option (Int × Nat) := do
  let (negative, magnitude) := Numeral.splitSign text
  let whole := magnitude.takeWhile Numeral.isDigit
  let fraction ← match magnitude.dropWhile Numeral.isDigit with
    | [] => some []
    | '.' :: rest => if rest.all Numeral.isDigit then some rest else none
    | _ => none
  if whole.isEmpty && fraction.isEmpty then none
  else some (Numeral.signed negative (Numeral.value (whole ++ fraction)), fraction.length)

def showDecimal (value : Int) (places : Nat) : Text :=
  let digits := Numeral.ofNat value.natAbs
  let digits := List.replicate (places + 1 - digits.length) '0' ++ digits
  let whole := digits.take (digits.length - places)
  let sign := if value < 0 then ['-'] else []
  sign ++ whole ++ if places = 0 then [] else '.' :: digits.drop (digits.length - places)

/-- The arguments of `seq`: the separator, whether numbers are filled up to one width, and the
numbers. -/
def readSequence : List Text → Option (Text × Bool × List (Int × Nat))
  | [] => some (['\n'], false, [])
  | argument :: rest =>
    match argument, rest with
    | ['-', 's'], separator :: rest => do
      let (_, wide, numbers) ← readSequence rest
      return (separator, wide, numbers)
    | ['-', 'w'], rest => do
      let (separator, _, numbers) ← readSequence rest
      return (separator, true, numbers)
    | _, rest => do
      let number ← readDecimal argument
      let (separator, wide, numbers) ← readSequence rest
      return (separator, wide, number :: numbers)

/-- Fills a number up with zeros behind its sign. -/
def widen (width : Nat) (text : Text) : Text :=
  let zeros := List.replicate (width - text.length) '0'
  match text with
  | '-' :: digits => '-' :: (zeros ++ digits)
  | digits => zeros ++ digits

def seq : Program := fun files process =>
  let range := match readSequence process.args with
    | some (separator, wide, [last]) => some (separator, wide, (1, 0), (1, 0), last)
    | some (separator, wide, [first, last]) => some (separator, wide, first, (1, 0), last)
    | some (separator, wide, [first, step, last]) => some (separator, wide, first, step, last)
    | _ => none
  match range with
  | none => .refused files process 1
  | some (separator, wide, (first, firstPlaces), (step, stepPlaces), (last, lastPlaces)) =>
    let places := max firstPlaces stepPlaces
    let scale := fun (value : Int) (given : Nat) => value * Int.pow 10 (max places lastPlaces - given)
    let (first, step, last) := (scale first firstPlaces, scale step stepPlaces, scale last lastPlaces)
    if step = 0 then .refused files process 1
    else
      let span := if 0 < step then last - first else first - last
      let count := if span < 0 then 0 else (span / step.natAbs).toNat + 1
      let shrink := Int.pow 10 (max places lastPlaces - places)
      let texts := (List.range count).map fun (i : Nat) =>
        showDecimal ((first + step * (i : Int)) / shrink) places
      let width := if wide then texts.foldl (fun width text => max width text.length) 0 else 0
      let written := Text.join separator (texts.map (widen width))
      .plain files process (if count = 0 then [] else line written) 0

def readPlaces (text : Text) : Option (List (Nat × Option Nat)) :=
  (Text.splitOn ',' text).mapM fun item =>
    match Text.splitOn '-' item with
    | [single] => (readNat single).bind fun n => if n = 0 then none else some (n, some n)
    | [[], high] => (readNat high).map fun n => (1, some n)
    | [low, []] => (readNat low).bind fun n => if n = 0 then none else some (n, none)
    | [low, high] => do
      let low ← readNat low
      let high ← readNat high
      if low = 0 ∨ high < low then none else some (low, some high)
    | _ => none

def isChosen (places : List (Nat × Option Nat)) (place : Nat) : Bool :=
  places.any fun (low, high) => low ≤ place && high.all (place ≤ ·)

/-- The members of a list at chosen places, counted from one. -/
def choose {α : Type} (places : List (Nat × Option Nat)) (members : List α) : List α :=
  members.zipIdx.filterMap fun (member, i) => if isChosen places (i + 1) then some member else none

def cut : Program := withOptions ['s', 'n'] ['b', 'c', 'f', 'd'] 1 fun options files process =>
  let characters := ((options.value? 'b').or (options.value? 'c')).map readPlaces
  let fields := (options.value? 'f').map readPlaces
  let delimiter := bytes ((options.value? 'd').getD ['\t'])
  let part : Option (Bytes → Option Bytes) :=
    match characters, fields, delimiter with
    | some (some places), none, _ => some fun data => some (choose places data)
    | none, some (some places), [separator] => some fun data =>
      if !data.contains separator then if options.has 's' then none else some data
      else some ([separator].intercalate (choose places (data.splitOn separator)))
    | _, _, _ => none
  match part with
  | none => .refused files process 1
  | some part => ofContents files process options.operands fun contents =>
    unlines ((contents.flatMap fun (_, data) => (lines data).1).filterMap part)

def tac : Program := withOptions [] [] 1 fun options files process =>
  ofContents files process options.operands fun contents =>
    contents.flatMap fun (_, data) => (rawLines data).reverse.flatten

def rev : Program := withOptions [] [] 1 fun options files process =>
  ofContents files process options.operands fun contents =>
    contents.flatMap fun (_, data) => (rawLines data).flatMap fun data =>
      let text := (textOf data).filter (· != '\n')
      bytes text.reverse ++ if data.getLast? = some 10 then [10] else []

def dropEndSlashes (path : Text) : Text :=
  match Text.dropEndWhile (· == '/') path with
  | [] => path.take 1
  | trimmed => trimmed

def baseName (path : Text) : Text :=
  let path := dropEndSlashes path
  if path = ['/'] then path else (path.reverse.takeWhile (· != '/')).reverse

def directoryName (path : Text) : Text :=
  let path := dropEndSlashes path
  if !path.contains '/' then ['.']
  else dropEndSlashes (Text.dropEndWhile (· != '/') path)

/-- Writes the last name of a path, without an ending if one is given. -/
def basename : Program := fun files process =>
  match process.args with
  | [path] => .plain files process (line (baseName path)) 0
  | [path, ending] =>
    let name := baseName path
    let shorter := name.take (name.length - ending.length)
    .plain files process (line (if shorter ++ ending = name && !shorter.isEmpty then shorter else name)) 0
  | _ => .refused files process 1

def dirname : Program := fun files process =>
  if process.args.isEmpty then .refused files process 1
  else .plain files process (process.args.flatMap fun path => line (directoryName path)) 0

/-- The microseconds of a duration, with its unit. -/
def readDuration (text : Text) : Option Nat := do
  let number := text.takeWhile fun c => Numeral.isDigit c || c == '.'
  let unit ← match text.drop number.length with
    | [] => some 1
    | ['s'] => some 1
    | ['m'] => some 60
    | ['h'] => some 3600
    | ['d'] => some 86400
    | _ => none
  let (value, places) ← readDecimal number
  return value.toNat * unit * 1000000 / Nat.pow 10 places

def sleep : Program := fun files process =>
  match process.args.mapM readDuration with
  | none => .refused files process 1
  | some [] => .refused files process 1
  | some durations =>
    { Result.plain files process [] 0 with elapsed := some (durations.foldl (· + ·) startTime) }

def succeed : Program := fun files process => .plain files process [] 0

def fail : Program := fun files process => .plain files process [] 1

def yes : Program := fun files _ => .endless files []

def pwd : Program := fun files process =>
  .plain files process (line (Path.text process.directory)) 0

def say (word : Text) : Program := fun files process =>
  .plain files process (line word) 0

end ChainShell.Machine
