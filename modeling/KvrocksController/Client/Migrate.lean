import KvrocksController.Server.Handlers

/-! The migrate command of the command-line client, up to the request that the server
decodes. Client and server share no type: the body is a map whose keys are matched
against the field names of `MigrateSlotRequest`, and a key that matches none is passed
over. -/
namespace Kvrocks.Client
open Server

structure MigrationOptions where
  ns : String
  cluster : String
  slot : String
  target : Int
  slotOnly : Bool
deriving DecidableEq, Repr

/-- The checks before the command runs. The slot is taken from the arguments. -/
def migrationPreRun (args : List String) (options : MigrationOptions) : Except Error MigrationOptions :=
  match args with
  | [] => .error (.new "resource type should be specified")
  | [_] => .error (.new "the slot number should be specified")
  | _ :: slot :: _ =>
    match parseSlotRange slot with
    | .error err => .error (.wrap ("invalid slot number: " ++ slot ++ ", error: ") err "")
    | .ok _ =>
      let options := { options with slot }
      if options.ns = "" then .error (.new "namespace is required, please specify with -n or --namespace")
      else if options.cluster = "" then .error (.new "cluster is required, please specify with -c or --cluster")
      else if options.target < 0 then .error (.new "target is required, please specify with --target")
      else .ok options

def formatBool (b : Bool) : String := if b then "true" else "false"

/-- The body that `migrateSlot` posts. The keys of a map are encoded in order. -/
def migrateSlotBody (options : MigrationOptions) : Json :=
  .obj [("slot", .str options.slot), ("slotOnly", .str (formatBool options.slotOnly)), ("target", .num options.target)]

theorem migrationPreRun_ok (accepted : migrationPreRun args options = .ok checked) : ∃ slot range,
    args[1]? = some slot ∧ parseSlotRange slot = .ok range ∧ checked = { options with slot } := by
  unfold migrationPreRun at accepted
  split at accepted
  · cases accepted
  · cases accepted
  · rename_i resource slot rest
    split at accepted
    · cases accepted
    · rename_i range parsed
      refine ⟨slot, range, rfl, parsed, ?_⟩
      dsimp only at accepted
      split at accepted
      · cases accepted
      · split at accepted
        · cases accepted
        · split at accepted
          · cases accepted
          · exact (Except.ok.inj accepted).symm

/-- What the server reads: no key of the body is `slot_only` in any spelling, so the flag
keeps its zero value. -/
theorem decode_migrateSlotBody (options : MigrationOptions) :
    ClusterHandler.MigrateSlotRequest.decode (migrateSlotBody options) =
      (parseSlotRange options.slot).map fun slot => ⟨options.target, slot, false⟩ := by
  let members : List (String × Json) := [("slot", .str options.slot),
    ("slotOnly", .str (formatBool options.slotOnly)), ("target", .num options.target)]
  have fields : (migrateSlotBody options).fields jsonMismatch = .ok fun name => Json.member name members .null := rfl
  have given : (migrateSlotBody options).hasMember "slot" = true := rfl
  have slot : Json.member "slot" members .null = .str options.slot := rfl
  have target : Json.member "target" members .null = .num options.target := rfl
  have slotOnly : Json.member "slot_only" members .null = .null := rfl
  rw [ClusterHandler.MigrateSlotRequest.decode, fields, given]
  simp only [bind, Except.bind, slot, target, slotOnly, if_true, Json.int, Json.bool', SlotRange.unmarshalJSON,
    Json.string]
  cases parseSlotRange options.slot with
  | error e => rfl
  | ok range => rfl

/-- An accepted command arrives as it was given exactly without the flag. -/
theorem migrate_command_arrives (accepted : migrationPreRun args options = .ok checked) :
    (∃ slot range, args[1]? = some slot ∧ parseSlotRange slot = .ok range ∧
      ClusterHandler.MigrateSlotRequest.decode (migrateSlotBody checked) =
        .ok ⟨options.target, range, options.slotOnly⟩) ↔ options.slotOnly = false := by
  obtain ⟨slot, range, given, parsed, rfl⟩ := migrationPreRun_ok accepted
  rw [decode_migrateSlotBody, parsed]
  constructor
  · rintro ⟨_, _, _, _, decoded⟩
    have same := Except.ok.inj decoded
    exact (congrArg ClusterHandler.MigrateSlotRequest.slotOnly same).symm
  · intro unset
    refine ⟨slot, range, given, parsed, ?_⟩
    rw [unset]
    rfl

section Samples

def sampleOptions (slotOnly : Bool) : MigrationOptions := ⟨"ns", "c", "", 1, slotOnly⟩

end Samples

theorem migrate_command_arrives_whole : ∃ slot range, ["slot", "0-5"][1]? = some slot ∧
    parseSlotRange slot = .ok range ∧
      ClusterHandler.MigrateSlotRequest.decode (migrateSlotBody { sampleOptions false with slot := "0-5" }) =
        .ok ⟨1, range, false⟩ := by
  have accepted : migrationPreRun ["slot", "0-5"] (sampleOptions false) =
      .ok { sampleOptions false with slot := "0-5" } := by
    decide +kernel
  exact (migrate_command_arrives accepted).mpr rfl

/-- The client asks to move the slots only; the server moves their data too. -/
theorem migrate_command_loses_flag :
    migrationPreRun ["slot", "0-5"] (sampleOptions true) = .ok { sampleOptions true with slot := "0-5" } ∧
      parseSlotRange "0-5" = .ok ⟨0, 5⟩ ∧
      ClusterHandler.MigrateSlotRequest.decode (migrateSlotBody { sampleOptions true with slot := "0-5" }) =
        .ok ⟨1, ⟨0, 5⟩, false⟩ ∧
      (sampleOptions true).slotOnly = true := by
  have parsed : parseSlotRange "0-5" = .ok ⟨0, 5⟩ := by decide +kernel
  refine ⟨by decide +kernel, parsed, ?_, rfl⟩
  rw [decode_migrateSlotBody, parsed]
  rfl

end Kvrocks.Client
