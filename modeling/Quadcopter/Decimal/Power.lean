/-!
# Quadcopter.Decimal.Power

The powers of two and of ten, by which doubles and decimals are scaled.
-/

namespace Quadcopter
namespace Decimal

def pow2 (n : Nat) : Nat := Nat.pow 2 n

def pow10 (n : Nat) : Nat := Nat.pow 10 n

end Decimal
end Quadcopter
