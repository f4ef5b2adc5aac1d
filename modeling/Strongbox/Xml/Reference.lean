import Strongbox.Text.Digits
/-! References in character data: five named ones, and characters by number. Numbers have 32 bits;
the number of a surrogate or of no character is refused. -/
namespace Strongbox.Xml

inductive NumberError where
  | sign
  | empty
  | digit
  | overflow
  | zero
  | codepoint (n : Nat)
  deriving DecidableEq, Repr

def NumberError.message : NumberError → String
  | sign => "unexpected number sign"
  | empty => "cannot parse integer from empty string"
  | digit => "invalid digit found in string"
  | overflow => "number too large to fit in target type"
  | zero => "0x0 character is not permitted in XML"
  | codepoint n => s!"`{n}` is not a valid codepoint"

def digitValue? (base : Nat) (c : Char) : Option Nat :=
  (Text.hexValue? c).filter (· < base)

/-- Reads digits onto `acc`. A character that is no digit is noticed before the overflow that it
would have caused, and after any earlier overflow. -/
def readDigits (base : Nat) : Nat → List Char → Except NumberError Nat
  | acc, [] => .ok acc
  | acc, c :: cs => match digitValue? base c with
    | none => .error .digit
    | some d => if acc * base + d < 1 <<< 32 then readDigits base (acc * base + d) cs
      else .error .overflow

def readNumber (base : Nat) : List Char → Except NumberError Nat
  | [] => .error .empty
  | c :: cs => if c = '+' ∨ c = '-' then .error .sign else readDigits base 0 (c :: cs)

/-- Hexadecimal after a small `x`, decimal otherwise. -/
def numberBody : List Char → Except NumberError Nat
  | 'x' :: cs => readNumber 16 cs
  | cs => readNumber 10 cs

def numbered (body : List Char) : Except NumberError Char := do
  let n ← numberBody body
  if n = 0 then .error .zero
  else if h : n.isValidChar then .ok (Char.ofNatAux n h)
  else .error (.codepoint n)

def named? (name : List Char) : Option Char :=
  if name = ['l', 't'] then some '<'
  else if name = ['g', 't'] then some '>'
  else if name = ['a', 'm', 'p'] then some '&'
  else if name = ['a', 'p', 'o', 's'] then some '\''
  else if name = ['q', 'u', 'o', 't'] then some '"'
  else none

inductive ReferenceError where
  | number (e : NumberError)
  | unknown (name : List Char)
  deriving DecidableEq, Repr

def resolve : List Char → Except ReferenceError Char
  | '#' :: body => (numbered body).mapError .number
  | name => match named? name with
    | some c => .ok c
    | none => .error (.unknown name)

end Strongbox.Xml
