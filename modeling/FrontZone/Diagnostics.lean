import FrontZone.Recent
import FrontZone.Word
/-!
# Diagnostic trouble codes

A trouble code is a number, reported as passed or failed. The event store keeps the status of the
first sixteen codes it meets and a history of the newest reports; a clear request wipes both, but
neither the numbering of reports nor the count of reports that found no room.
-/

namespace FrontZone

/-- A diagnostic trouble code. -/
structure Dtc where
  val : UInt32
  deriving Repr, DecidableEq

namespace Dtc

/-- Steering is not where its command says. -/
def steerPlausibility : Dtc := ⟨0xD00100⟩
/-- A steering command is out of range. -/
def steerRange : Dtc := ⟨0xD00200⟩
/-- Steering commands have gone stale. -/
def steerTimeout : Dtc := ⟨0xD00400⟩
/-- The steering sensor cannot be read. -/
def steerSensor : Dtc := ⟨0xD00500⟩
/-- The brake is at fault, whatever the fault is. -/
def brakeFault : Dtc := ⟨0xD10100⟩
/-- Brake commands have gone stale. -/
def brakeTimeout : Dtc := ⟨0xD10200⟩
/-- The brake is not where its command says. -/
def brakePlausibility : Dtc := ⟨0xD10300⟩

end Dtc

/-- A number in upper-case hexadecimal with at least `width` digits, after `0x`. -/
def hexText (width n : Nat) : String :=
  let digits := (Nat.toDigits 16 n).map Char.toUpper
  String.ofList ('0' :: 'x' :: (List.replicate (width - digits.length) '0' ++ digits))

/-- The text of a trouble code: six hexadecimal digits, more if it needs them. -/
def Dtc.text (code : Dtc) : String :=
  hexText 6 code.val.toNat

/-- The outcome of one diagnostic test. -/
inductive EventStatus where
  | passed
  | failed
  deriving Repr, DecidableEq

/-- The name under which a status is sent. -/
def EventStatus.name : EventStatus → String
  | passed => "Passed"
  | failed => "Failed"

/-- What the store knows of one code. -/
structure DtcEntry where
  code : Dtc
  /-- The last report was a failure. -/
  testFailed : Bool
  /-- Some report was a failure. -/
  confirmed : Bool
  /-- Failures that did not directly follow another failure. -/
  occurrences : UInt16
  deriving Repr, DecidableEq

namespace DtcEntry

/-- The entry of a code that is reported for the first time. -/
def first (code : Dtc) (status : EventStatus) : DtcEntry :=
  let failed := status = .failed
  ⟨code, failed, failed, if failed then 1 else 0⟩

/-- The entry after one more report of its code. -/
def update (e : DtcEntry) (status : EventStatus) : DtcEntry :=
  let failed := status = .failed
  { e with
    testFailed := failed
    confirmed := e.confirmed || failed
    occurrences := if failed && !e.testFailed then countUp16 e.occurrences else e.occurrences }

end DtcEntry

/-- One report in the history. -/
structure EventRecord where
  sequence : UInt32
  code : Dtc
  status : EventStatus
  deriving Repr, DecidableEq

/-- How many codes the store can tell apart. -/
def maxEventEntries : Nat := 16

/-- How many reports the store remembers. -/
def maxEventHistory : Nat := 64

/-- The bounded store of diagnostic events. -/
structure EventStore where
  /-- In order of first report. -/
  entries : List DtcEntry := []
  /-- Oldest first. -/
  history : List EventRecord := []
  nextSequence : UInt32 := 0
  /-- Reports whose code was unknown and found the entries full. -/
  droppedCodes : UInt32 := 0
  deriving Repr, DecidableEq

namespace EventStore

/-- The entry of `code`, if it has one. -/
def entry? (s : EventStore) (code : Dtc) : Option DtcEntry :=
  s.entries.find? (·.code = code)

/-- Whether the last report of `code` was a failure. -/
def isFailed (s : EventStore) (code : Dtc) : Bool :=
  (s.entry? code).any (·.testFailed)

/-- The codes whose last report was a failure, in order of first report. -/
def activeCodes (s : EventStore) : List Dtc :=
  (s.entries.filter (·.testFailed)).map (·.code)

/-- Brings the status table up to date with one report. -/
def updateEntries (s : EventStore) (code : Dtc) (status : EventStatus) : EventStore :=
  if (s.entry? code).isSome then
    { s with entries := s.entries.map fun e => if e.code = code then e.update status else e }
  else if s.entries.length < maxEventEntries then
    { s with entries := s.entries ++ [DtcEntry.first code status] }
  else
    { s with droppedCodes := countUp32 s.droppedCodes }

/-- Takes in one report. -/
def record (s : EventStore) (code : Dtc) (status : EventStatus) : EventStore :=
  let s := s.updateEntries code status
  { s with
    history := pushRecent maxEventHistory s.history ⟨s.nextSequence, code, status⟩
    nextSequence := s.nextSequence + 1 }

/-- Takes in reports in order. -/
def recordAll (s : EventStore) (events : List (Dtc × EventStatus)) : EventStore :=
  events.foldl (fun s e => s.record e.1 e.2) s

/-- The remembered outcomes of `code`, oldest first. -/
def reportsFor (s : EventStore) (code : Dtc) : List EventStatus :=
  (s.history.filter (·.code = code)).map (·.status)

/-- Wipes status table and history, as a tester's clear request does. -/
def clear (s : EventStore) : EventStore :=
  { s with entries := [], history := [] }

end EventStore

end FrontZone
