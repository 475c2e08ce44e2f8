import KvrocksController.Store.Parse
import KvrocksController.Store.SlotProofs

/-! `GetClusterInfo`: how the text of a `CLUSTER INFO` reply is read. A line counts only
if it has exactly one colon; a field that no line names keeps its zero value, which for
the migrating slot is a nil pointer. -/
namespace Kvrocks

/-- `unicode.IsSpace`. -/
def isSpace (c : Char) : Bool :=
  [0x09, 0x0A, 0x0B, 0x0C, 0x0D, 0x20, 0x85, 0xA0, 0x1680, 0x2028, 0x2029, 0x202F, 0x205F, 0x3000].contains c.toNat ||
    (0x2000 ≤ c.toNat && c.toNat ≤ 0x200A)

def trimSpace (s : String) : String :=
  String.ofList (((s.toList.dropWhile isSpace).reverse.dropWhile isSpace).reverse)

/-- `unicode.ToLower` where its result is an ASCII letter. The lower case of any other
character is not in a field name, so it is left alone here. -/
def lowerChar (c : Char) : Char :=
  if 'A' ≤ c ∧ c ≤ 'Z' then Char.ofNat (c.toNat + 32)
  else if c.toNat = 0x212A then 'k'
  else if c.toNat = 0x130 then 'i'
  else c

def toLower (s : String) : String := String.ofList (s.toList.map lowerChar)

/-- `strings.Split` by `"\r\n"`. -/
def splitCRLF : List Char → List (List Char)
  | [] => [[]]
  | '\r' :: '\n' :: rest => [] :: splitCRLF rest
  | c :: rest =>
    match splitCRLF rest with
    | [] => [[c]]
    | line :: lines => (c :: line) :: lines

def infoLines (infoStr : String) : List String := (splitCRLF infoStr.toList).map String.ofList

/-- The name and the value of a line that has both. -/
def infoField? (line : String) : Option (String × String) :=
  match splitString ':' line with
  | [name, value] => some (toLower (trimSpace name), trimSpace value)
  | _ => none

def isMigratingSlotName (name : String) : Bool := name = "migrating_slot" || name = "migrating_slot(s)"

def parseInfoLine (clusterInfo : ClusterInfo) (line : String) : Except Error ClusterInfo :=
  match infoField? line with
  | none => .ok clusterInfo
  | some (name, value) =>
    if name = "cluster_current_epoch" then
      match Strconv.parseInt value with
      | none => .error (.new ("strconv.ParseInt: parsing \"" ++ value ++ "\": invalid syntax"))
      | some currentEpoch => .ok { clusterInfo with currentEpoch }
    else if isMigratingSlotName name then
      match parseSlotRange value with
      | .error e => .error e
      | .ok slotRange => .ok { clusterInfo with migratingSlot := some (fromSlotRange slotRange) }
    else if name = "migrating_state" then .ok { clusterInfo with migratingState := value }
    else .ok clusterInfo

/-- The loop over the lines. -/
def parseInfoLines (clusterInfo : ClusterInfo) : List String → Except Error ClusterInfo
  | [] => .ok clusterInfo
  | line :: lines =>
    match parseInfoLine clusterInfo line with
    | .error e => .error e
    | .ok clusterInfo => parseInfoLines clusterInfo lines

def parseClusterInfo (infoStr : String) : Except Error ClusterInfo :=
  parseInfoLines ⟨-1, none, ""⟩ (infoLines infoStr)

/-- The call: the node answers with a text or not at all. -/
def getClusterInfo (answer : Except Error String) : Except Error ClusterInfo :=
  match answer with
  | .error e => .error e
  | .ok infoStr => parseClusterInfo infoStr

/-- The line sets the migrating slot. -/
def namesSlot (line : String) : Bool :=
  match infoField? line with
  | none => false
  | some (name, _) => isMigratingSlotName name

theorem parseInfoLine_slot (parsed : parseInfoLine clusterInfo line = .ok next) :
    (namesSlot line = false ∧ next.migratingSlot = clusterInfo.migratingSlot) ∨
      namesSlot line = true ∧ ∃ slotRange : SlotRange, slotRange.InBounds ∧
        next.migratingSlot = some (fromSlotRange slotRange) := by
  unfold parseInfoLine at parsed
  unfold namesSlot
  split at parsed
  · cases parsed
    exact .inl ⟨rfl, rfl⟩
  · rename_i name value _
    split at parsed
    · rename_i epoch
      split at parsed
      · cases parsed
      · cases parsed
        exact .inl ⟨by rw [epoch]; rfl, rfl⟩
    · split at parsed
      · rename_i slot
        split at parsed
        · cases parsed
        · rename_i slotRange read
          cases parsed
          exact .inr ⟨slot, slotRange, parseSlotRange_inBounds read, rfl⟩
      · rename_i other
        refine .inl ⟨Bool.eq_false_iff.mpr other, ?_⟩
        split at parsed <;> cases parsed <;> rfl

/-- A slot is known after the loop if it was before or a line names one, and a slot
read from a line is in bounds. -/
theorem parseInfoLines_slot (parsed : parseInfoLines clusterInfo lines = .ok next) :
    (∀ line ∈ lines, namesSlot line = false) ∧ next.migratingSlot = clusterInfo.migratingSlot ∨
      (∃ line ∈ lines, namesSlot line = true) ∧ ∃ slotRange : SlotRange, slotRange.InBounds ∧
        next.migratingSlot = some (fromSlotRange slotRange) := by
  induction lines generalizing clusterInfo with
  | nil =>
    cases parsed
    exact .inl ⟨by simp, rfl⟩
  | cons line lines ih =>
    rw [parseInfoLines] at parsed
    split at parsed
    · cases parsed
    · rename_i middle first
      rcases ih parsed with ⟨none, same⟩ | ⟨⟨later, member, named⟩, slot⟩
      · rcases parseInfoLine_slot first with ⟨silent, kept⟩ | ⟨named, slotRange, bounds, set⟩
        · refine .inl ⟨fun other member => ?_, same.trans kept⟩
          rcases List.mem_cons.mp member with rfl | member
          · exact silent
          · exact none other member
        · exact .inr ⟨⟨line, by simp, named⟩, slotRange, bounds, same.trans set⟩
      · exact .inr ⟨⟨later, by simp [member], named⟩, slot⟩

/-- The pointer stays nil exactly where no line names a slot. -/
theorem parseClusterInfo_none (parsed : parseClusterInfo infoStr = .ok info) :
    info.migratingSlot = none ↔ ∀ line ∈ infoLines infoStr, namesSlot line = false := by
  rcases parseInfoLines_slot parsed with ⟨silent, same⟩ | ⟨⟨line, member, named⟩, slotRange, _, set⟩
  · exact iff_of_true same silent
  · refine iff_of_false (by simp [set]) fun silent => ?_
    rw [silent line member] at named
    cases named

theorem parseClusterInfo_inBounds (parsed : parseClusterInfo infoStr = .ok info)
    (reported : info.migratingSlot = some slot) : slot.slotRange.InBounds := by
  rcases parseInfoLines_slot parsed with ⟨_, same⟩ | ⟨_, slotRange, bounds, set⟩
  · rw [reported] at same
    cases same
  · rw [reported] at set
    obtain rfl := Option.some.inj set
    exact bounds

end Kvrocks
