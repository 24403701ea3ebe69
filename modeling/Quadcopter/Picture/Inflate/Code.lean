import Quadcopter.Picture.Inflate.Bits

/-!
# Quadcopter.Picture.Inflate.Code

Prefix codes that are given by the lengths of their codes. Shorter codes come first, and codes of one
length come in the order of their symbols.

A symbol is looked for before all its bits may have arrived, and then it has to wait for them.
-/

namespace Quadcopter
namespace Inflate

/-- A prefix code: how many codes there are of each length up to the longest, and the symbols in order
of their codes. -/
structure Code where
  counts : List Nat
  symbols : Array Nat

def maxCodeLength : Nat := 15

/-- The code in which symbol `i` has `lengths[i]` bits, zero meaning none. -/
def Code.ofLengths (lengths : List Nat) : Code :=
  let longest := lengths.foldl max 0
  let places := List.range' 1 longest
  { counts := places.map fun n => lengths.count n
    symbols := (places.flatMap fun n =>
      lengths.zipIdx.filterMap fun (l, i) => if l == n then some i else none).toArray }

/-- The share of all codes that a list of lengths takes up, in units of the longest code's share. -/
def codeSpace (lengths : List Nat) : Nat :=
  lengths.foldl (fun sum l => if l = 0 then sum else sum + 1 <<< (maxCodeLength - l)) 0

/-- Whether the lengths use every code exactly once. -/
def isComplete (lengths : List Nat) : Bool := codeSpace lengths == 1 <<< maxCodeLength

inductive Reading (α : Type) where
  | starved
  | unknown
  | done (value : α) (rest : Reader)

/-- What so many bits mean, if they are there. -/
def Reading.ofBits {α : Type} (r : Reader) (value : α) (length : Nat) : Reading α :=
  if r.left < length then .starved else .done value (r.skip length)

/-- Find a symbol and the length of its code: lengthen the code bit by bit until it is one of those of
its length. Where the bits end, zeros are supposed. -/
def Code.findFrom (symbols : Array Nat) (r : Reader) : List Nat → (code first index length : Nat) →
    Option (Nat × Nat)
  | [], _, _, _, _ => none
  | count :: counts, code, first, index, length =>
    let code := 2 * code + r.bitAt length
    if code < first + count then
      match symbols[index + (code - first)]? with
      | some symbol => some (symbol, length + 1)
      | none => none
    else findFrom symbols r counts code (2 * (first + count)) (index + count) (length + 1)

def Code.find (c : Code) (r : Reader) : Option (Nat × Nat) := findFrom c.symbols r c.counts 0 0 0 0

/-- The symbol that comes next and the length of its code, if that is at most so long. -/
def Code.findShort (c : Code) (r : Reader) (longest : Nat) : Option (Nat × Nat) :=
  findFrom c.symbols r (c.counts.take longest) 0 0 0 0

def Code.read (c : Code) (r : Reader) : Reading Nat :=
  match c.find r with
  | none => .unknown
  | some (symbol, length) => .ofBits r symbol length

/-- The symbol that ends a block; smaller ones are literals. -/
def endSymbol : Nat := 256

/-- What is read at once from a coded block. -/
inductive Entry where
  /-- A literal with a short code, or two of them whose codes are short together. -/
  | literals (first : Nat) (second : Option Nat)
  | symbol (n : Nat)

/-- The number of bits that are looked at for short codes. -/
def shortBits : Nat := 12

/-- The second literal behind a first one whose code has so many bits. A code of a single bit is not
joined to the one before it. -/
def Code.second? (c : Code) (r : Reader) (length : Nat) : Option (Nat × Nat) :=
  match c.findShort (r.skip length) (shortBits - length) with
  | some (symbol, n) => if symbol < endSymbol ∧ 1 < n then some (symbol, n) else none
  | none => none

/-- Read what comes next in a coded block. Two joined literals have to be there both. -/
def Code.readEntry (c : Code) (r : Reader) : Reading Entry :=
  match c.find r with
  | none => .unknown
  | some (first, length) =>
    if endSymbol ≤ first ∨ shortBits < length then .ofBits r (.symbol first) length
    else
      match c.second? r length with
      | some (second, n) => .ofBits r (.literals first (some second)) (length + n)
      | none => .ofBits r (.literals first none) length

/-- The shortest copy of each length symbol, and the number of bits that are added to it. -/
def lengthTable : Array (Nat × Nat) :=
  #[(3, 0), (4, 0), (5, 0), (6, 0), (7, 0), (8, 0), (9, 0), (10, 0), (11, 1), (13, 1), (15, 1),
    (17, 1), (19, 2), (23, 2), (27, 2), (31, 2), (35, 3), (43, 3), (51, 3), (59, 3), (67, 4),
    (83, 4), (99, 4), (115, 4), (131, 5), (163, 5), (195, 5), (227, 5), (258, 0)]

/-- The shortest distance of each distance symbol, and the number of bits that are added to it. -/
def distanceTable : Array (Nat × Nat) :=
  #[(1, 0), (2, 0), (3, 0), (4, 0), (5, 1), (7, 1), (9, 2), (13, 2), (17, 3), (25, 3), (33, 4),
    (49, 4), (65, 5), (97, 5), (129, 6), (193, 6), (257, 7), (385, 7), (513, 8), (769, 8),
    (1025, 9), (1537, 9), (2049, 10), (3073, 10), (4097, 11), (6145, 11), (8193, 12), (12289, 12),
    (16385, 13), (24577, 13)]

/-- A number of a table with its added bits. -/
def extended (table : Array (Nat × Nat)) (symbol : Nat) (r : Reader) : Reading Nat :=
  match table[symbol]? with
  | none => .unknown
  | some (base, bits) =>
    match r.bits? bits with
    | none => .starved
    | some (n, r) => .done (base + n) r

/-- The lengths of the literal code that need not be written. -/
def fixedLiteralLengths : List Nat :=
  List.replicate 144 8 ++ List.replicate 112 9 ++ List.replicate 24 7 ++ List.replicate 8 8

def fixedLiterals : Code := .ofLengths fixedLiteralLengths

def fixedDistances : Code := .ofLengths (List.replicate 32 5)

/-- The order in which the lengths of the code for lengths are written. -/
def lengthOrder : List Nat := [16, 17, 18, 0, 8, 7, 9, 6, 10, 5, 11, 4, 12, 3, 13, 2, 14, 1, 15]

end Inflate
end Quadcopter
