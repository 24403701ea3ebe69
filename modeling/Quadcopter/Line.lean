import Quadcopter.Signature
import Quadcopter.Text.Uppercase
import Quadcopter.Token.Lexer

/-!
# Quadcopter.Line

One source line from its text to checked tokens. The comment is cut first, so a `#` ends the line
even inside quotes; then the text is upper cased, and only then trimmed.
-/

namespace Quadcopter
namespace Line

open Text

def uncommented (s : List Char) : List Char := s.takeWhile (· != '#')

/-- A line made ready for the lexer: without its comment, in upper case, trimmed. -/
def normalize (s : List Char) : List Char := trim (upper (uncommented s))

def preprocess (s : String) : String := String.ofList (normalize s.toList)

/-- The checked tokens of a line. -/
def parse (s : String) : Except Cause (List Token) :=
  match Token.tokens (normalize s.toList) with
  | .error e => .error e
  | .ok ts =>
    match check ts with
    | .error e => .error e
    | .ok () => .ok ts

/-- The checked tokens of a line, its faults placed in the line's number. -/
def read (number : Nat) (s : String) : Except Fault (List Token) :=
  match parse s with
  | .error e => .error (e.inLine number)
  | .ok ts => .ok ts

end Line
end Quadcopter
