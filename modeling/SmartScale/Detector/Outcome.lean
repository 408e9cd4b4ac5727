/-!
# Outcomes

What the detector says about a reading, and what it currently believes to be on the scale.  An
outcome has an integer code; `Outcome.ofCode?` is its inverse on the slots of a record.
-/

namespace SmartScale

/-- Number of object slots in a record. -/
def slotCount : Nat := 4

/-- What the detector says about one reading. -/
inductive Outcome
  /-- Nothing to report: stable, debouncing, or not calibrated. -/
  | noChange
  /-- The reading changed and no slot matches it. -/
  | noMatch
  /-- The scale is empty. -/
  | noObject
  /-- The object of the slot is confirmed. -/
  | object (slot : Nat)
  deriving DecidableEq, Repr

namespace Outcome

def maxCode : Int := 2147483647

/-- Integer code: the slot, or a negative number where there is none. -/
def code : Outcome → Int
  | noChange => -3
  | noMatch => -2
  | noObject => -1
  | object slot => min (slot : Int) maxCode

/-- The outcome with a given code, if it is one of a record's slots. -/
def ofCode? (code : Int) : Option Outcome :=
  if code = -3 then some noChange
  else if code = -2 then some noMatch
  else if code = -1 then some noObject
  else if 0 ≤ code ∧ code < slotCount then some (object code.toNat)
  else none

def slot? : Outcome → Option Nat
  | object slot => some slot
  | _ => none

def name : Outcome → String
  | noChange => "no_change"
  | noMatch => "no_match"
  | noObject => "no_object"
  | object _ => "object"

def display : Outcome → String
  | object slot => "object " ++ toString slot
  | outcome => outcome.name

end Outcome

/-- What the detector believes to be on the scale. -/
inductive Tracked
  | noObject
  /-- Something that matches no slot. -/
  | noMatch
  /-- The object of the slot, seen but not necessarily confirmed. -/
  | candidate (slot : Nat)
  deriving DecidableEq, Repr

end SmartScale
