import EdgeHealthd.Json

/-!
Executable `BootProbe` of `src/probes.cpp`. The probe keeps nothing in memory:
every call reloads `boot_state.json` and saves it when it changed something.
-/

namespace EdgeHealthd

structure BootState where
  lastBootId : String := ""
  consecutiveFailures : UInt32 := 0
  lastBootOk : Bool := true
  deriving DecidableEq, Repr

def loadBootState : StateFile → BootState
  | .missing => {}
  | .corrupt => {}
  -- An exception on a later key keeps what the earlier keys have set.
  | .json value =>
      match value.field "last_boot_id" Json.getString with
      | .error _ => {}
      | .ok lastBootId =>
          let state : BootState := { lastBootId := lastBootId.getD "" }
          match value.field "consecutive_failures" Json.getUint32 with
          | .error _ => state
          | .ok failures =>
              let state := { state with consecutiveFailures := failures.getD 0 }
              match value.field "last_boot_ok" Json.getBool with
              | .error _ => state
              | .ok lastBootOk =>
                  { state with lastBootOk := lastBootOk.getD (state.consecutiveFailures == 0) }

def BootState.toJson (state : BootState) : Json :=
  .object [("last_boot_id", .string state.lastBootId),
    ("consecutive_failures", .integer state.consecutiveFailures.toNat),
    ("last_boot_ok", .boolean state.lastBootOk)]

/-- A failed save is only logged and leaves the old file. -/
def saveBootState (file : StateFile) (state : BootState) (saved : Bool) : StateFile :=
  if saved then .json state.toJson else file

def BootState.enterBoot (state : BootState) (bootId : String) : BootState where
  lastBootId := bootId
  consecutiveFailures :=
    if state.lastBootId != "" && !state.lastBootOk then state.consecutiveFailures + 1
    else state.consecutiveFailures
  lastBootOk := false

def BootProbe.collect (file : StateFile) (bootId : String) (uptime : Int) (now : WallTime)
    (saved : Bool) : BootStatus × StateFile :=
  let loaded := loadBootState file
  let isNewBoot := loaded.lastBootId != bootId
  let state := if isNewBoot then loaded.enterBoot bootId else loaded
  ({ bootId, uptime, lastBootAt := now - seconds uptime
     bootFailCount := state.consecutiveFailures
     bootOk := state.consecutiveFailures == 0 },
    if isNewBoot then saveBootState file state saved else file)

def BootProbe.markBootSuccess (file : StateFile) (bootId : String) (saved : Bool) : StateFile :=
  saveBootState file
    { loadBootState file with lastBootId := bootId, consecutiveFailures := 0, lastBootOk := true }
    saved

end EdgeHealthd
