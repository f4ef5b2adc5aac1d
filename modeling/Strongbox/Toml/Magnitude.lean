import Strongbox.Toml.Table
/-! How large numbers may be. A document may hold any number; a reader of its values takes whole
numbers of 128 bits, and other numbers that a double can hold or that are written as infinite. -/
namespace Strongbox.Toml

/-- Number of the digits of a base, between which underscores may stand. -/
def digitsIn (base : Nat) (cs : List Char) : Nat :=
  cs.foldl (fun n c => match Text.hexValue? c with
    | some d => base * n + d
    | none => n) 0

def wholeOf : List Char → Int
  | '0' :: 'x' :: cs => digitsIn 16 cs
  | '0' :: 'o' :: cs => digitsIn 8 cs
  | '0' :: 'b' :: cs => digitsIn 2 cs
  | '-' :: cs => -(digitsIn 10 cs : Int)
  | cs => digitsIn 10 (Text.dropSign cs)

def fitsWhole : Int → Bool
  | .ofNat n => n < 1 <<< 128
  | .negSucc n => n < 1 <<< 127

/-- A magnitude in decimal form: some digits times a power of ten. -/
structure Magnitude where
  digits : Nat
  scale : Int
  deriving DecidableEq, Repr

namespace Magnitude

def ofWritten (cs : List Char) : Magnitude :=
  let body := (Text.dropSign cs).filter (· != '_')
  let mantissa := body.takeWhile fun c => c != 'e' && c != 'E'
  let exponent := (body.drop mantissa.length).drop 1
  let fraction := (mantissa.dropWhile (· != '.')).drop 1
  ⟨digitsIn 10 mantissa, wholeOf exponent - fraction.length⟩

/-- The least magnitude that rounds to infinity in a double. -/
def overflow : Nat := 1 <<< 1024 - 1 <<< 970

/-- Whether a magnitude stays below the overflow. The number of its digits decides unless the two
are close, so that no power gets large. -/
def isFinite (m : Magnitude) : Bool :=
  let size : Int := (Nat.toDigits 10 m.digits).length + m.scale
  if m.digits = 0 ∨ size < 300 then true
  else if 320 < size then false
  else m.digits * Nat.pow 10 m.scale.toNat < overflow * Nat.pow 10 (-m.scale).toNat

end Magnitude

def Scalar.isReadable : Scalar → Bool
  | .integer written => fitsWhole (wholeOf written.toList)
  | .float written =>
    let body := Text.dropSign written.toList
    body == ['i', 'n', 'f'] || body == ['n', 'a', 'n'] || (Magnitude.ofWritten body).isFinite
  | _ => true

mutual

def Value.isReadable : Value → Bool
  | .text _ => true
  | .scalar s => s.isReadable
  | .array items _ => itemsReadable items
  | .table _ fields => fieldsReadable fields

def itemsReadable : List Value → Bool
  | [] => true
  | v :: later => v.isReadable && itemsReadable later

def fieldsReadable : List (String × Value) → Bool
  | [] => true
  | (_, v) :: later => v.isReadable && fieldsReadable later

end

end Strongbox.Toml
