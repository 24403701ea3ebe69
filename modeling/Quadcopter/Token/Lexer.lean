import Quadcopter.Fault
import Quadcopter.Text.Blank
import Quadcopter.Text.Split
import Quadcopter.Decimal.Numeral
import Quadcopter.Token.Basic

/-!
# Quadcopter.Token.Lexer

From characters to tokens. Blanks separate tokens and mean nothing else, except inside a quoted
text. The first character of a token decides how the rest is read: `$` a register, a quote a text, a
digit or a sign a number, a letter a name. Whatever a reader stops at has to be a blank or the end.

Main statement: reading one token takes at least one character (`read_length`), so that `tokens`
ends.
-/

namespace Quadcopter
namespace Token

open Text Decimal

/-- Whether a character may follow the first letter of a name. -/
def isNameChar (c : Char) : Bool := c.isAlphanum || c == '_'

/-- Whether a token may end before this rest of a line: there is nothing, or a blank. -/
def atBreak : List Char → Bool
  | [] => true
  | c :: _ => isBlank c

/-- Finish a token before `rest`, unless something other than a blank follows it directly. -/
def finish (otherwise : Cause) (t : Token) (rest : List Char) :
    Except Cause (Token × List Char) :=
  if atBreak rest then .ok (t, rest) else .error otherwise

/-- The digits of a register after its sigil; `strange` is the fault of any other character. -/
def readRegister (kind : Kind) (strange : Cause) (s : List Char) :
    Except Cause (Token × List Char) :=
  match splitWhile Char.isDigit s with
  | ([], rest) => .error (if atBreak rest then .incompleteToken else strange)
  | (digits, rest) => finish strange ⟨kind, String.ofList digits⟩ rest

/-- A quoted text after its opening quote, up to the next quote. -/
def readText (s : List Char) : Except Cause (Token × List Char) :=
  match splitWhile (· != '"') s with
  | (_, []) => .error .incompleteToken
  | (body, _ :: rest) => finish .missingBlank ⟨.text, String.ofList body⟩ rest

/-- A number after its first character, a digit or a sign: digits, then perhaps a point and more
digits. -/
def readNumber (first : Char) (s : List Char) : Except Cause (Token × List Char) :=
  match splitWhile Char.isDigit s with
  | (whole, '.' :: s') =>
    match splitWhile Char.isDigit s' with
    | (fraction, rest) =>
      finish .strangeInNumber ⟨.float, String.ofList (first :: whole ++ '.' :: fraction)⟩ rest
  | (whole, rest) => finish .strangeInNumber ⟨.integer, String.ofList (first :: whole)⟩ rest

/-- A name after its first letter; a colon behind it makes it a label. -/
def readName (first : Char) (s : List Char) : Except Cause (Token × List Char) :=
  match splitWhile isNameChar s with
  | (body, ':' :: rest) => finish .missingBlank ⟨.label, String.ofList (first :: body)⟩ rest
  | (body, rest) => finish .strangeInIdentifier (ofName (String.ofList (first :: body))) rest

/-- What follows the sigil of a register. -/
def readSigil : List Char → Except Cause (Token × List Char)
  | 'P' :: s => readRegister .pictureRegister .strangeInPictureRegister s
  | 'R' :: s => readRegister .numberRegister .strangeInRegister s
  | s => .error (if atBreak s then .incompleteToken else .strangeInRegister)

/-- Read one token off a rest of a line that starts with the character `c`, not a blank. -/
def read (c : Char) (s : List Char) : Except Cause (Token × List Char) :=
  if c = '$' then readSigil s
  else if c = '"' then readText s
  else if c.isDigit || c == '+' || c == '-' then readNumber c s
  else if c.isAlpha then readName c s
  else .error .strangeSymbol

theorem finish_eq_ok {e : Cause} {t u : Token} {s r : List Char} (h : finish e t s = .ok (u, r)) :
    u = t ∧ r = s ∧ atBreak s = true := by
  unfold finish at h
  split at h
  · next hb => cases h; exact ⟨rfl, rfl, hb⟩
  · cases h

theorem readRegister_length {k : Kind} {e : Cause} {s r : List Char} {t : Token}
    (h : readRegister k e s = .ok (t, r)) : r.length ≤ s.length := by
  unfold readRegister at h
  split at h
  · cases h
  · next hs => obtain ⟨-, rfl, -⟩ := finish_eq_ok h; exact length_of_splitWhile hs

theorem read_length {c : Char} {s r : List Char} {t : Token} (h : read c s = .ok (t, r)) :
    r.length ≤ s.length := by
  unfold read at h
  split at h
  · unfold readSigil at h
    split at h
    · exact Nat.le_succ_of_le (readRegister_length h)
    · exact Nat.le_succ_of_le (readRegister_length h)
    · cases h
  split at h
  · unfold readText at h
    split at h
    · cases h
    · next hs =>
      obtain ⟨-, rfl, -⟩ := finish_eq_ok h
      exact Nat.le_of_succ_le (length_of_splitWhile hs)
  split at h
  · unfold readNumber at h
    split at h
    · next hs =>
      obtain ⟨-, rfl, -⟩ := finish_eq_ok h
      exact Nat.le_trans (length_of_splitWhile rfl) (Nat.le_of_succ_le (length_of_splitWhile hs))
    · next hs => obtain ⟨-, rfl, -⟩ := finish_eq_ok h; exact length_of_splitWhile hs
  split at h
  · unfold readName at h
    split at h
    · next hs =>
      obtain ⟨-, rfl, -⟩ := finish_eq_ok h
      exact Nat.le_of_succ_le (length_of_splitWhile hs)
    · next hs => obtain ⟨-, rfl, -⟩ := finish_eq_ok h; exact length_of_splitWhile hs
  · cases h

/-- All tokens of a line, or the first thing in it that is no token. -/
def tokens : List Char → Except Cause (List Token)
  | [] => .ok []
  | c :: s =>
    if isBlank c then tokens s
    else
      match _h : read c s with
      | .error e => .error e
      | .ok (t, rest) =>
        match tokens rest with
        | .error e => .error e
        | .ok ts => .ok (t :: ts)
termination_by s => s.length
decreasing_by
  · simp
  · have := read_length _h; simp only [List.length_cons]; omega

/-- Split a line, which is already in upper case, into its tokens. -/
def lex (s : String) : Except Cause (List Token) := tokens s.toList

end Token
end Quadcopter
