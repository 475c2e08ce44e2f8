import KvrocksController.Consts
import KvrocksController.Lib.Interval
import KvrocksController.Lib.Strconv

/-! Slot ranges: the operations of `store/slot.go` on single ranges, their text,
and the two list operations every slot movement goes through. Go's `sort.Slice`
is not stable; the order it leaves equal starts in is shown not to matter, so
the insertion sort used here stands for any sort by start. -/
namespace Kvrocks

def minSlotID : Int := 0
def maxSlotID : Int := 16383

abbrev SlotRange := Interval

namespace SlotRange

def hasOverlap (slotRange that : SlotRange) : Bool :=
  slotRange.stop ≥ that.start && slotRange.start ≤ that.stop

def equal (slotRange that : SlotRange) : Bool :=
  if slotRange.start ≠ that.start then false
  else if slotRange.stop ≠ that.stop then false
  else true

def string (slotRange : SlotRange) : String :=
  if slotRange.start = slotRange.stop then Strconv.itoa slotRange.start
  else Strconv.itoa slotRange.start ++ "-" ++ Strconv.itoa slotRange.stop

/-- What every accepted range satisfies: ordered ends among the slot numbers. -/
def InBounds (slotRange : SlotRange) : Prop :=
  minSlotID ≤ slotRange.start ∧ slotRange.start ≤ slotRange.stop ∧ slotRange.stop ≤ maxSlotID

instance (slotRange : SlotRange) : Decidable slotRange.InBounds :=
  inferInstanceAs (Decidable (_ ∧ _ ∧ _))

end SlotRange

def atoiError (s : String) : Error := .new ("strconv.Atoi: parsing \"" ++ s ++ "\": invalid syntax")

def atoi (s : String) : Except Error Int :=
  match Strconv.parseInt s with
  | some n => .ok n
  | none => .error (atoiError s)

def outOfRange (slot : Int) : Bool := slot < minSlotID || slot > maxSlotID

def parseSlotRange (s : String) : Except Error SlotRange :=
  let numberOfRanges := s.toList.count '-'
  if numberOfRanges > 1 then
    .error (.wrap "" (.of .invalidArgument) ", cannot have more than one range")
  else
    match s.toList.idxOf? '-' with
    | none => do
      let start ← atoi s
      if outOfRange start then .error (.of .slotOutOfRange) else .ok ⟨start, start⟩
    | some index => do
      let start ← atoi (String.ofList (s.toList.take index))
      let stop ← atoi (String.ofList (s.toList.drop (index + 1)))
      if start > stop then .error (.new "start slot id greater than stop slot id")
      else if outOfRange start || outOfRange stop then .error (.of .slotOutOfRange)
      else .ok ⟨start, stop⟩

/-- True when the ranges overlap or are adjacent. -/
def canMerge (a b : SlotRange) : Bool :=
  if a.start > b.start then b.stop + 1 ≥ a.start else a.stop + 1 ≥ b.start

def mergeSlotRanges (a b : SlotRange) : SlotRange := ⟨min a.start b.start, max a.stop b.stop⟩

def sortByStart (source : List SlotRange) : List SlotRange :=
  source.insertionSort (fun a b => a.start ≤ b.start)

/-- One round of the merge loop: `merged` ends with the last merged range. -/
def mergeInterval (merged : List SlotRange) (interval : SlotRange) : List SlotRange :=
  match merged.getLast? with
  | none => [interval]
  | some lastInterval =>
    if canMerge lastInterval interval then merged.dropLast ++ [mergeSlotRanges interval lastInterval]
    else merged ++ [interval]

def mergeSorted : List SlotRange → List SlotRange
  | [] => []
  | first :: rest => rest.foldl mergeInterval [first]

def addSlotToSlotRanges (source : List SlotRange) (slot : SlotRange) : List SlotRange :=
  if source.isEmpty then source ++ [slot] else mergeSorted (sortByStart (source ++ [slot]))

def removeFromRange (slot slotRange : SlotRange) : List SlotRange :=
  if !SlotRange.hasOverlap slotRange slot then [slotRange]
  else
    (if slotRange.start < slot.start then [⟨slotRange.start, slot.start - 1⟩] else []) ++
      (if slotRange.stop > slot.stop then [⟨slot.stop + 1, slotRange.stop⟩] else [])

def removeSlotFromSlotRanges (source : List SlotRange) (slot : SlotRange) : List SlotRange :=
  let source := sortByStart source
  if !source.any (fun slotRange => SlotRange.hasOverlap slotRange slot) then source
  else source.flatMap (removeFromRange slot)

/-- The last of `n` ranges takes the remainder of the division. -/
def calculateSlotRanges (n : Nat) : List SlotRange :=
  let rangeSize : Int := (maxSlotID + 1) / n
  (List.range n).map fun i =>
    if i ≠ n - 1 then ⟨i * rangeSize, (i + 1) * rangeSize - 1⟩ else ⟨i * rangeSize, maxSlotID⟩

end Kvrocks
