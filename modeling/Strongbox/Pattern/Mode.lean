import Strongbox.Text.Blank
/-! Modes: settings that a pattern makes inside itself, and what they let a reader pass over. -/
namespace Strongbox.Pattern

structure Mode where
  foldsCase : Bool
  /-- Lines begin and end inside the text. -/
  byLine : Bool
  dotsLineEnds : Bool
  prefersFew : Bool
  /-- Characters of every script, and not ASCII alone. -/
  everyScript : Bool
  /-- A carriage return belongs to the end of a line. -/
  carriageReturns : Bool
  skipsBlanks : Bool
  deriving DecidableEq, Repr

namespace Mode

def usual : Mode := ⟨false, false, false, false, true, false, false⟩

def change? (m : Mode) (letter : Char) (on : Bool) : Option Mode :=
  if letter = 'i' then some { m with foldsCase := on }
  else if letter = 'm' then some { m with byLine := on }
  else if letter = 's' then some { m with dotsLineEnds := on }
  else if letter = 'U' then some { m with prefersFew := on }
  else if letter = 'u' then some { m with everyScript := on }
  else if letter = 'R' then some { m with carriageReturns := on }
  else if letter = 'x' then some { m with skipsBlanks := on }
  else none

/-- Letters change a mode one after the other; those after a minus sign switch off. -/
def changeAll? (m : Mode) (on : Bool) : List Char → Option Mode
  | [] => some m
  | c :: cs => if c = '-' then m.changeAll? false cs else (m.change? c on).bind (·.changeAll? on cs)

/-- Settings hold every letter and the minus sign once, and no minus sign at the end. -/
def settle? (m : Mode) (letters : List Char) : Option Mode :=
  if letters.eraseDups.length = letters.length && letters.getLast? != some '-' then
    m.changeAll? true letters
  else none

def skipAll (comment : Bool) : List Char → List Char
  | [] => []
  | c :: cs =>
    if comment then skipAll (c != '\n') cs
    else if Text.isSpace c then skipAll false cs
    else if c = '#' then skipAll true cs
    else c :: cs

def skip (m : Mode) (cs : List Char) : List Char := if m.skipsBlanks then skipAll false cs else cs

/-- The next character that means something; of a comment, only its sign is passed over. -/
def peek? (m : Mode) (cs : List Char) : Option Char :=
  if m.skipsBlanks then
    match cs.dropWhile Text.isSpace with
    | '#' :: cs => (cs.dropWhile Text.isSpace).head?
    | cs => cs.head?
  else cs.head?

theorem length_skipAll_le (comment : Bool) (cs : List Char) :
    (skipAll comment cs).length ≤ cs.length := by
  induction cs generalizing comment with
  | nil => simp [skipAll]
  | cons c cs ih =>
    have := ih true; have := ih false; have := ih (c != '\n')
    unfold skipAll
    repeat' split
    all_goals simp only [List.length_cons]; omega

theorem length_skip_le (m : Mode) (cs : List Char) : (m.skip cs).length ≤ cs.length := by
  unfold skip
  split
  · exact length_skipAll_le false cs
  · exact Nat.le_refl _

end Mode
end Strongbox.Pattern
