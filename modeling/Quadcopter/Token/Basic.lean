import Quadcopter.Mnemonic

/-!
# Quadcopter.Token.Basic

Tokens: a kind and the text that carries its meaning, without the marks that show the kind. Writing
a token puts the marks back.
-/

namespace Quadcopter

inductive Kind where
  | pictureRegister
  | numberRegister
  | text
  | integer
  | float
  | identifier
  | label
  | command
  deriving DecidableEq, Repr

/-- Whether tokens of this kind stand for a number when they are read as a value. -/
def Kind.isNumeric : Kind → Bool
  | .numberRegister | .integer | .float => true
  | _ => false

structure Token where
  kind : Kind
  text : String
  deriving DecidableEq, Repr

namespace Token

def ofMnemonic (w : Mnemonic) : Token := ⟨.command, w.spelling⟩

def mnemonic? (t : Token) : Option Mnemonic :=
  match t.kind with
  | .command => Mnemonic.ofSpelling? t.text
  | _ => none

def isLabel (t : Token) : Bool := t.kind == .label

/-- The token of a bare name: a command if it spells an instruction word, else an identifier. -/
def ofName (name : String) : Token :=
  if (Mnemonic.ofSpelling? name).isSome then ⟨.command, name⟩ else ⟨.identifier, name⟩

/-- An identifier that spells an instruction word turned into a command; other tokens stay. -/
def detect (t : Token) : Token :=
  match t.kind with
  | .identifier => ofName t.text
  | _ => t

def render (t : Token) : String :=
  match t.kind with
  | .pictureRegister => "$P" ++ t.text
  | .numberRegister => "$R" ++ t.text
  | .text => "\"" ++ t.text ++ "\""
  | .label => t.text ++ ":"
  | .integer | .float | .identifier | .command => t.text

/-- The source form of a list of tokens, one space between each two. -/
def renderAll (ts : List Token) : String := " ".intercalate (ts.map render)

end Token
end Quadcopter
