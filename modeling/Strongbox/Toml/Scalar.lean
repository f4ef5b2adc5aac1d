import Strongbox.Toml.Text
/-! Values of TOML without quotes and brackets: numbers, truth values, dates and times. They are
recognised and kept as they are written. -/
namespace Strongbox.Toml

inductive Scalar where
  | integer (written : String)
  | float (written : String)
  | boolean (value : Bool)
  | moment (written : String)
  deriving DecidableEq, Repr

/-- Digits, with single underscores between some of them. -/
def isRun (digit : Char → Bool) : List Char → Bool
  | [] => false
  | [c] => digit c
  | c :: '_' :: cs => digit c && isRun digit cs
  | c :: cs => digit c && isRun digit cs

/-- A whole number without sign; only zero begins with a zero. -/
def isDecimal (cs : List Char) : Bool :=
  isRun Char.isDigit cs && (cs == ['0'] || cs.head? != some '0')

def isHexDigit (c : Char) : Bool := (Text.hexValue? c).isSome

/-- Whole numbers in other bases have no sign. -/
def isInteger : List Char → Bool
  | '0' :: 'x' :: cs => isRun isHexDigit cs
  | '0' :: 'o' :: cs => isRun (fun c => '0' ≤ c && c ≤ '7') cs
  | '0' :: 'b' :: cs => isRun (fun c => c == '0' || c == '1') cs
  | cs => isDecimal (Text.dropSign cs)

def isExponent : List Char → Bool
  | [] => true
  | c :: cs => (c == 'e' || c == 'E') && isRun Char.isDigit (Text.dropSign cs)

def isFraction : List Char → Bool
  | [] => false
  | '.' :: cs =>
    isRun Char.isDigit (cs.takeWhile fun c => c.isDigit || c == '_') &&
      isExponent (cs.dropWhile fun c => c.isDigit || c == '_')
  | cs => isExponent cs

def isFloat (cs : List Char) : Bool :=
  let body := Text.dropSign cs
  let whole := body.takeWhile fun c => c.isDigit || c == '_'
  body == ['i', 'n', 'f'] || body == ['n', 'a', 'n'] ||
    (isDecimal whole && isFraction (body.drop whole.length))

def pair? (a b : Char) : Option Nat :=
  if a.isDigit && b.isDigit then some (Text.decimal [a, b]) else none

def isLeap (year : Nat) : Bool := year % 4 == 0 && (year % 100 != 0 || year % 400 == 0)

def daysIn (year month : Nat) : Nat :=
  if month = 2 then if isLeap year then 29 else 28
  else if month = 4 ∨ month = 6 ∨ month = 9 ∨ month = 11 then 30
  else 31

def skipDate : List Char → Option (List Char)
  | a :: b :: c :: d :: '-' :: e :: f :: '-' :: g :: h :: cs => do
    let year := 100 * (← pair? a b) + (← pair? c d)
    let month ← pair? e f
    let day ← pair? g h
    if 1 ≤ month ∧ month ≤ 12 ∧ 1 ≤ day ∧ day ≤ daysIn year month then some cs else none
  | _ => none

def skipClock : List Char → Option (List Char)
  | a :: b :: ':' :: c :: d :: cs => do
    if (← pair? a b) ≤ 23 ∧ (← pair? c d) ≤ 59 then some cs else none
  | _ => none

/-- Rest after the seconds, which may be left out and may have a fraction. -/
def skipSeconds : List Char → Option (List Char)
  | ':' :: a :: b :: cs => do
    if 60 < (← pair? a b) then none
    match cs with
    | '.' :: cs => if (cs.head?.any Char.isDigit) then some (cs.dropWhile Char.isDigit) else none
    | cs => some cs
  | ':' :: _ => none
  | cs => some cs

def skipTime (cs : List Char) : Option (List Char) := (skipClock cs).bind skipSeconds

def isOffset : List Char → Bool
  | [] => true
  | ['Z'] => true
  | ['z'] => true
  | '+' :: cs => skipClock cs == some []
  | '-' :: cs => skipClock cs == some []
  | _ => false

def isDate (cs : List Char) : Bool := skipDate cs == some []

def isDateTime (cs : List Char) : Bool :=
  match skipDate cs with
  | some (c :: cs) => (c == 'T' || c == 't' || c == ' ') && (skipTime cs).any isOffset
  | _ => false

def isMoment (cs : List Char) : Bool := isDate cs || isDateTime cs || skipTime cs == some []

def Scalar.of? (cs : List Char) : Option Scalar :=
  if cs = ['t', 'r', 'u', 'e'] then some (boolean true)
  else if cs = ['f', 'a', 'l', 's', 'e'] then some (boolean false)
  else if isInteger cs then some (integer (String.ofList cs))
  else if isFloat cs then some (float (String.ofList cs))
  else if isMoment cs then some (moment (String.ofList cs))
  else none

def isWordChar (c : Char) : Bool :=
  c.isAlphanum || c == '+' || c == '-' || c == '_' || c == '.' || c == ':'

/-- One word, or two if the first is a day and the second begins with a digit. -/
def readScalar? (cs : List Char) : Option (Scalar × List Char) :=
  let word := cs.takeWhile isWordChar
  let rest := cs.dropWhile isWordChar
  match isDate word, rest with
  | true, ' ' :: d :: later =>
    if d.isDigit then
      let time := (d :: later).takeWhile isWordChar
      (Scalar.of? (word ++ ' ' :: time)).map (·, (d :: later).dropWhile isWordChar)
    else (Scalar.of? word).map (·, rest)
  | _, _ => (Scalar.of? word).map (·, rest)

end Strongbox.Toml
