import Quadcopter.Picture.Inflate.Code
import Quadcopter.Picture.Inflate.Flaw

/-!
# Quadcopter.Picture.Inflate.Stream

Unpacking compressed data that arrives piece by piece: blocks that are stored as they are, or coded by
prefix codes for literal bytes and for copies of what was put out before.

A `Stream` is how far the work has come. One step reads one thing whole (a header, a code length, a
few symbols, what is there of a stored block) or, if not all of it has arrived, nothing. So work that
stopped for want of data goes on where it was when there is more. Every step that reads something reads
at least one bit, so the number of bits bounds the work.

Work also stops when the output has reached a size. A copy that goes beyond it is put out whole, and the
rest of it waits in the output. Data is taken in before it is read, in whole bytes, as long as at most
63 bits wait to be read; how much was taken in when the work stops can be seen from outside.
-/

namespace Quadcopter
namespace Inflate

/-- What a stream has to read next. -/
inductive Stage where
  | header
  | blockStart
  /-- So many bytes of a stored block. -/
  | stored (left : Nat)
  /-- The code in which code lengths are written: how many literal, distance and length symbols there
  are. -/
  | lengthCode (literals distances lengths : Nat)
  /-- The code lengths of both codes, the last one first. -/
  | lengths (code : Code) (literals total : Nat) (done : List Nat)
  | coded (literals distances : Code)
  | trailer
  | finished

structure Stream where
  place : Nat := 0
  taken : Nat := 0
  last : Bool := false
  stage : Stage := .header
  out : ByteArray := .empty

namespace Stream

def isFinished (s : Stream) : Bool :=
  match s.stage with
  | .finished => true
  | _ => false

def endBlock (s : Stream) (place : Nat) : Stream :=
  { s with place, stage := if s.last then .trailer else .blockStart }

/-- Take bytes in until more than 55 bits wait to be read. -/
def takeIn (data : ByteArray) (s : Stream) : Stream :=
  { s with taken := min data.size ((s.place + 63) / 8) }

/-- The result of a step: a flaw, or the stream and whether the work goes on. -/
abbrev Outcome := Except Flaw (Stream × Bool)

def wait (s : Stream) : Outcome := .ok (s, false)

def go (s : Stream) : Outcome := .ok (s, true)

/-- Whether two bytes announce a stream of the one known method, with a window of at most 32 KiB, no
preset dictionary and a fitting check. -/
def isHeader (first second : Nat) : Bool :=
  first % 16 == 8 && first / 16 ≤ 7 && second / 32 % 2 == 0 && (256 * first + second) % 31 == 0

def readHeader (r : Reader) (s : Stream) : Outcome :=
  if r.left < 16 then s.wait
  else if isHeader (r.byteAt 0) (r.byteAt 1) then go { s with place := 16, stage := .blockStart }
  else .error .header

/-- Read the start of a stored block, whose length is written twice. -/
def startStored (r : Reader) (s : Stream) : Outcome :=
  let start := r.nextByte 3
  if r.data.size < start + 4 then s.wait
  else
    let length := r.byteAt start + 256 * r.byteAt (start + 1)
    let check := r.byteAt (start + 2) + 256 * r.byteAt (start + 3)
    let place := 8 * (start + 4)
    if length + check ≠ 65535 then .error .storedLength
    else if length = 0 then go (s.endBlock place)
    else go { s with place, stage := .stored length }

def startWritten (r : Reader) (s : Stream) : Outcome :=
  match r.bits? 17 with
  | none => s.wait
  | some (n, r) =>
    let literals := n / 8 % 32 + 257
    let distances := n / 256 % 32 + 1
    if 286 < literals then .error .literalCount
    else if 30 < distances then .error .distanceCount
    else go { s with place := r.place, stage := .lengthCode literals distances (n / 8192 + 4) }

/-- Read the start of a block. It is looked at when there are ten bits, as many as the shortest block
has. -/
def startBlock (r : Reader) (s : Stream) : Outcome :=
  if r.left < 10 then s.wait
  else
    match r.bits? 3 with
    | none => s.wait
    | some (n, rest) =>
      let s := { s with last := n % 2 == 1 }
      match n / 2 with
      | 0 => s.startStored r
      | 1 => go { s with place := rest.place, stage := .coded fixedLiterals fixedDistances }
      | 2 => s.startWritten r
      | _ => .error .blockKind

/-- Put out what has arrived of a stored block, up to a size of the output. -/
def readStored (limit left : Nat) (r : Reader) (s : Stream) : Outcome :=
  let start := r.place / 8
  let count := min (min left (r.data.size - start)) (limit - s.out.size)
  if count = 0 then s.wait
  else
    let stop := start + count
    let s := { s with taken := max s.taken stop, out := s.out ++ r.data.extract start stop }
    if count = left then go (s.endBlock (8 * stop))
    else go { s with place := 8 * stop, stage := .stored (left - count) }

def threeBits? : Nat → Reader → Option (List Nat × Reader)
  | 0, r => some ([], r)
  | n + 1, r =>
    match r.bits? 3 with
    | none => none
    | some (a, r) => (threeBits? n r).map fun (rest, r) => (a :: rest, r)

/-- Read the code in which code lengths are written. -/
def readLengthCode (literals distances count : Nat) (r : Reader) (s : Stream) : Outcome :=
  match threeBits? count r with
  | none => s.wait
  | some (written, r) =>
    let lengths := (List.range 19).map fun i => ((lengthOrder.zip written).lookup i).getD 0
    if isComplete lengths then
      go { s with place := r.place
                  stage := .lengths (.ofLengths lengths) literals (literals + distances) [] }
    else .error .lengthTree

/-- Whether distance codes of such lengths can be used: none, one of a single bit, or all codes. -/
def isDistanceCode (lengths : List Nat) : Bool :=
  match lengths.filter (· != 0) with
  | [] => true
  | [1] => true
  | _ => isComplete lengths

/-- The block whose code lengths are these. -/
def startCoded (literals : Nat) (lengths : List Nat) (s : Stream) : Outcome :=
  let (first, second) := (lengths.take literals, lengths.drop literals)
  if first.getD 256 0 = 0 then .error .literalTree
  else if !isComplete first then .error .lengthTree
  else if !isDistanceCode second then .error .distanceTree
  else go { s with stage := .coded (.ofLengths first) (.ofLengths second) }

/-- How often a length symbol repeats a length: at least so often, and as many more as the number in so
many bits says. -/
def repeatsOf (symbol : Nat) : Nat × Nat :=
  if symbol = 16 then (3, 2) else if symbol = 17 then (3, 3) else (11, 7)

/-- Read one code length, or several equal ones. It is looked at when there are seven bits, as many as
the longest code has. -/
def readLength (code : Code) (literals total : Nat) (done : List Nat) (r : Reader) (s : Stream) :
    Outcome :=
  let extend (done : List Nat) (place : Nat) : Outcome :=
    if total < done.length then .error .lengthRepeat
    else if done.length = total then { s with place }.startCoded literals done.reverse
    else go { s with place, stage := .lengths code literals total done }
  if r.left < 7 then s.wait
  else
    match code.read r with
    | .starved => s.wait
    | .unknown => .error .lengthTree
    | .done symbol r =>
      if symbol < 16 then extend (symbol :: done) r.place
      else
        let (base, bits) := repeatsOf symbol
        match r.bits? bits with
        | none => s.wait
        | some (n, r) =>
          if symbol = 16 then
            match done with
            | [] => .error .lengthRepeat
            | length :: _ => extend (List.replicate (base + n) length ++ done) r.place
          else extend (List.replicate (base + n) 0 ++ done) r.place

/-- Put out again what was put out `distance` bytes before, one byte after the other. -/
def copyBack (distance : Nat) : Nat → ByteArray → ByteArray
  | 0, out => out
  | n + 1, out =>
    let byte := if h : out.size - distance < out.size then out[out.size - distance] else 0
    copyBack distance n (out.push byte)

/-- Read the distance of a copy and put it out. A wrong code is recognized when there are ten bits. -/
def readCopy (length : Nat) (distances : Code) (r : Reader) (s : Stream) : Outcome :=
  let refuse : Outcome := if r.left < 10 then s.wait else .error .distanceCode
  match distances.read r with
  | .starved => s.wait
  | .unknown => refuse
  | .done symbol rest =>
    match extended distanceTable symbol rest with
    | .starved => s.wait
    | .unknown => refuse
    | .done distance r =>
      if s.out.size < distance then .error .distance
      else go { s with place := r.place, out := copyBack distance length s.out }

def put (s : Stream) (byte : Nat) : Stream := { s with out := s.out.push (UInt8.ofNat byte) }

def putLiterals (s : Stream) (first : Nat) (second : Option Nat) (place : Nat) : Stream :=
  let s := { s with place }.put first
  match second with
  | none => s
  | some second => s.put second

/-- Go on behind a symbol: a literal with a long code, a copy, or the end of a block. The two symbols
behind the lengths end it too. -/
def readSymbol (symbol : Nat) (distances : Code) (r : Reader) (s : Stream) : Outcome :=
  if symbol < endSymbol then go ({ s with place := r.place }.put symbol)
  else if symbol = endSymbol then go (s.endBlock r.place)
  else
    match extended lengthTable (symbol - 257) r with
    | .starved => s.wait
    | .unknown => go (s.endBlock r.place)
    | .done length r => s.readCopy length distances r

/-- Stop because the output has reached a size. If it has that size exactly and fifteen bits were taken
in, the end of the block may still be read. -/
def pause (limit : Nat) (literals : Code) (data : ByteArray) (s : Stream) : Outcome :=
  if limit < s.out.size ∨ 8 * s.taken < s.place + maxCodeLength then s.wait
  else
    match literals.read ⟨data, s.place⟩ with
    | .done symbol r => if symbol = endSymbol then go (s.endBlock r.place) else s.wait
    | _ => s.wait

/-- Read one entry of a coded block, and stop when the output has reached a size. -/
def readOne (limit : Nat) (literals distances : Code) (r : Reader) (s : Stream) : Outcome :=
  if limit ≤ s.out.size then s.pause limit literals r.data
  else
    match literals.readEntry r with
    | .starved | .unknown => s.wait
    | .done (.literals first second) rest =>
      let next := s.putLiterals first second rest.place
      if s.out.size + 1 < limit then go next else next.pause limit literals r.data
    | .done (.symbol symbol) rest =>
      match s.readSymbol symbol distances rest with
      | .ok (next, true) => if limit < next.out.size then next.wait else go next
      | outcome => outcome

/-- Read up to three entries of literals of a coded block, or up to two and a symbol of another kind.
There is data and room enough for all of it. -/
def readMany (literals distances : Code) : Nat → Reader → Stream → Outcome
  | 0, _, s => go s
  | n + 1, r, s =>
    match literals.readEntry r with
    | .starved | .unknown => s.wait
    | .done (.literals first second) rest =>
      readMany literals distances n rest (s.putLiterals first second rest.place)
    | .done (.symbol symbol) rest => s.readSymbol symbol distances rest

/-- The bytes of data and of room that have to be there for several entries at once. -/
def ampleBytes : Nat := 8

def readCoded (limit : Nat) (literals distances : Code) (r : Reader) (s : Stream) : Outcome :=
  if s.out.size + ampleBytes ≤ limit ∧ s.taken + ampleBytes ≤ r.data.size then
    readMany literals distances 3 r s
  else s.readOne limit literals distances r

/-- Read the four bytes behind the last block, whatever they are. -/
def readTrailer (r : Reader) (s : Stream) : Outcome :=
  let place := r.nextByte 0 + 4
  if r.data.size < place then s.wait else go { s with place := 8 * place, stage := .finished }

/-- One step on the data that has arrived, up to a size of the output. -/
def step (data : ByteArray) (limit : Nat) (s : Stream) : Outcome :=
  let r : Reader := ⟨data, s.place⟩
  match s.stage with
  | .header => (s.takeIn data).readHeader r
  | .blockStart => (s.takeIn data).startBlock r
  | .stored left => s.readStored limit left r
  | .lengthCode literals distances lengths =>
    (s.takeIn data).readLengthCode literals distances lengths r
  | .lengths code literals total done => (s.takeIn data).readLength code literals total done r
  | .coded literals distances => (s.takeIn data).readCoded limit literals distances r
  | .trailer => (s.takeIn data).readTrailer r
  | .finished => s.wait

def steps (data : ByteArray) (limit : Nat) : Nat → Stream → Except Flaw Stream
  | 0, s => .ok s
  | fuel + 1, s =>
    match s.step data limit with
    | .error flaw => .error flaw
    | .ok (s, true) => steps data limit fuel s
    | .ok (s, false) => .ok s

/-- Unpack what can be unpacked of the data that has arrived, up to a size of the output. Nothing is read
as long as a copy already goes beyond that size. -/
def advance (data : ByteArray) (limit : Nat) (s : Stream) : Except Flaw Stream :=
  if limit < s.out.size then .ok s else s.steps data limit (8 * data.size + 1)

end Stream
end Inflate
end Quadcopter
