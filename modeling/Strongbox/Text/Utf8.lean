/-! The bytes of a text. -/
namespace Strongbox.Text

def utf8Size (cs : List Char) : Nat := cs.foldl (fun n c => n + c.utf8Size) 0

/-- What follows the first `n` bytes, unless they end inside a character or there are fewer. -/
def dropBytes? : Nat → List Char → Option (List Char)
  | 0, cs => some cs
  | _ + 1, [] => none
  | n + 1, c :: cs => if c.utf8Size ≤ n + 1 then dropBytes? (n + 1 - c.utf8Size) cs else none

def takeBytes? : Nat → List Char → Option (List Char)
  | 0, _ => some []
  | _ + 1, [] => none
  | n + 1, c :: cs =>
    if c.utf8Size ≤ n + 1 then (takeBytes? (n + 1 - c.utf8Size) cs).map (c :: ·) else none

/-- From byte `first` up to byte `last`, unless one of them is inside a character. -/
def slice? (cs : List Char) (first last : Nat) : Option (List Char) :=
  (dropBytes? first cs).bind (takeBytes? (last - first))

/-- Continuation bytes that a leading byte asks for, with the range of the first of them. -/
def continuation? (lead : Nat) : Option (Nat × Nat × Nat) :=
  if 0xC2 ≤ lead ∧ lead ≤ 0xDF then some (1, 0x80, 0xBF)
  else if lead = 0xE0 then some (2, 0xA0, 0xBF)
  else if lead = 0xED then some (2, 0x80, 0x9F)
  else if 0xE1 ≤ lead ∧ lead ≤ 0xEF then some (2, 0x80, 0xBF)
  else if lead = 0xF0 then some (3, 0x90, 0xBF)
  else if 0xF1 ≤ lead ∧ lead ≤ 0xF3 then some (3, 0x80, 0xBF)
  else if lead = 0xF4 then some (3, 0x80, 0x8F)
  else none

def leadBits (lead : Nat) : Nat :=
  if lead < 0xE0 then lead % 0x20 else if lead < 0xF0 then lead % 0x10 else lead % 8

/-- What the reader is in the middle of: bytes still wanted, range of the next, value so far. -/
structure Partial where
  wanted : Nat
  low : Nat
  high : Nat
  value : Nat

def lossyStart (b : Nat) : List Char × Option Partial :=
  if b < 0x80 then ([Char.ofNat b], none)
  else match continuation? b with
    | some (wanted, low, high) => ([], some ⟨wanted, low, high, leadBits b⟩)
    | none => ([Char.ofNat 0xFFFD], none)

/-- Every longest run of bytes that cannot be part of a text becomes one replacement character. -/
def lossyFrom : Option Partial → List UInt8 → List Char
  | none, [] => []
  | some _, [] => [Char.ofNat 0xFFFD]
  | none, b :: bs =>
    let (shown, state) := lossyStart b.toNat
    shown ++ lossyFrom state bs
  | some p, b :: bs =>
    let n := b.toNat
    if p.low ≤ n ∧ n ≤ p.high then
      let value := p.value * 0x40 + n % 0x40
      if p.wanted ≤ 1 then Char.ofNat value :: lossyFrom none bs
      else lossyFrom (some ⟨p.wanted - 1, 0x80, 0xBF, value⟩) bs
    else
      let (shown, state) := lossyStart n
      Char.ofNat 0xFFFD :: shown ++ lossyFrom state bs

def lossy (bytes : ByteArray) : String := String.ofList (lossyFrom none bytes.toList)

end Strongbox.Text
