import Quadcopter.Decimal.Shortest

/-!
# Quadcopter.Decimal.Plain

Doubles as text, never with an exponent. `plain` writes the shortest digits that read back, with no
point if the number is whole; `fixed` writes the exact value rounded to a number of places, a half
to the even digit. A negative sign is written for negative zero too.
-/

namespace Quadcopter
namespace Decimal

def natText (n : Nat) : List Char := Nat.toDigits 10 n

/-- The digits of a natural number, with zeros before them up to a width. -/
def paddedNat (width n : Nat) : List Char :=
  List.replicate (width - (natText n).length) '0' ++ natText n

/-- `n · 10 ^ (-places)` in positional notation. -/
def placed (places n : Nat) : List Char :=
  if places = 0 then natText n
  else natText (n / pow10 places) ++ '.' :: paddedNat places (n % pow10 places)

def Digits.positional (d : Digits) : List Char :=
  placed (-d.exponent).toNat (d.digits * pow10 d.exponent.toNat)

def signText (negative : Bool) : List Char := if negative then ['-'] else []

def infinityText (negative : Bool) : List Char := signText negative ++ ['i', 'n', 'f']

/-- The shortest decimal that reads back. -/
def plain (x : Float) : String :=
  String.ofList <|
    match Binary64.ofFloat x with
    | .finite negative m q =>
      signText negative ++ if m = 0 then ['0'] else (shortest m q).positional
    | .infinite negative => infinityText negative
    | .nan => ['N', 'a', 'N']

/-- The exact value rounded to a number of places. -/
def fixed (places : Nat) (x : Float) : String :=
  String.ofList <|
    match Binary64.ofFloat x with
    | .finite negative m q =>
      signText negative ++
        placed places (roundHalfEven (m * pow2 q.toNat * pow10 places) (pow2 (-q).toNat))
    | .infinite negative => infinityText negative
    | .nan => ['N', 'a', 'N']

end Decimal
end Quadcopter
