import Strongbox.Log.Config
import Strongbox.Disk
/-! The log of a process. It is set up once; what was reported before is lost, and a set-up that
failed may be tried again. -/
namespace Strongbox.Log

/-- Where events go once the log is set up: into what is open, or else to standard error. -/
structure Sink where
  filter : Filter
  handle : Option Handle
  deriving DecidableEq, Repr

structure Journal where
  stamp : String
  /-- The log is being set up or has been; who fails to set it up gives this back. -/
  claimed : Bool
  /-- What is in force, whoever has put it there. -/
  sink : Option Sink
  lines : List String
  deriving DecidableEq, Repr

namespace Journal

def empty : Journal := ⟨"", false, none, []⟩

def isInitialized (j : Journal) : Bool := j.claimed

def claim (j : Journal) : Journal := { j with claimed := true }

def unclaim (j : Journal) : Journal := { j with claimed := false }

/-- Gives the log back after a failure. A crash leaves nobody to do so. -/
def release (e : LogError) (j : Journal) : Journal :=
  match e with
  | .crash _ => j
  | _ => j.unclaim

/-- A line behind the stamp. Levels after a stamp end in one column. -/
def stamped (j : Journal) (level : Level) (line : String) : String :=
  if j.stamp = "" then line
  else j.stamp ++ (if level.label.length < 5 then "  " else " ") ++ line

def put (e : Event) (sink : Sink) (j : Journal) (disk : Disk) : Journal × Disk :=
  let line := j.stamped e.level (sink.filter.line e)
  match sink.handle with
  | none => ({ j with lines := j.lines ++ [line] }, disk)
  | some handle => (j, Disk.extend handle (line ++ "\n").toUTF8 disk)

/-- Takes events in order; those that the filter does not show leave no trace. -/
def take : List Event → Journal → Disk → Journal × Disk
  | [], j, disk => (j, disk)
  | e :: later, j, disk => match j.sink with
    | none => (j, disk)
    | some sink =>
      if sink.filter.shows e then
        let (j, disk) := put e sink j disk
        take later j disk
      else take later j disk

def opened (c : Config) : Event :=
  ⟨.debug, "credstore_core::tracing", "Tracing initialized", [("level", .shown c.level.toText)], none⟩

def openOutput : Output → Disk → Except LogError (Option Handle) × Disk
  | .standardError, disk => (.ok none, disk)
  | .file path, disk => match Disk.openAppend path disk with
    | .ok handle disk => (.ok (some handle), disk)
    | .error e disk => (.error (.fileCreation s!"{path}: {e.message}"), disk)

def install (sink : Sink) (j : Journal) : Except LogError Journal :=
  match j.sink with
  | some _ => .error (.initialization "a global default trace dispatcher has already been set")
  | none => .ok { j with sink := some sink }

/-- Sets up the log, unless that was done before. The filter is looked at before the output. The log is
claimed first of all, so each way to fail has to give it back. -/
def start (c : Config) (j : Journal) (disk : Disk) :
    Except LogError Unit × Journal × Disk :=
  if j.isInitialized then (.error .alreadyInitialized, j.claim, disk)
  else match c.filter with
    | .error e => (.error e, j.claim.release e, disk)
    | .ok filter => match openOutput c.output disk with
      | (.error e, disk) => (.error e, j.claim.unclaim, disk)
      | (.ok handle, disk) => match j.claim.install ⟨filter, handle⟩ with
        | .error e => (.error e, j.claim.unclaim, disk)
        | .ok j => (.ok (), take [opened c] j disk)

end Journal
end Strongbox.Log
