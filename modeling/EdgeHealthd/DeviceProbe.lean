import EdgeHealthd.Config
import EdgeHealthd.DaemonCore

/-!
Executable `DeviceProbe` of `src/probes.cpp`. A file is passed as its content, or as `none`
where it does not open; the same holds for the two system calls.
-/

namespace EdgeHealthd

structure Utsname where
  machine : String
  release : String

structure DeviceReplies where
  serialNumber : Option String := none
  machineId : Option String := none
  osRelease : Option String := none
  hostname : Option String := none
  hostnameFile : Option String := none
  uname : Option Utsname := none

-- `std::isspace` in the C locale.
def isBlank (ch : Char) : Bool := ch == ' ' || ('\t' ≤ ch && ch ≤ '\r')

def firstLine (content : String) : List Char := content.toList.takeWhile (· != '\n')

/-- Strings of the device tree end in a null character. -/
def readSerialNumber (content : String) : List Char :=
  (firstLine content).filter fun ch => !(ch == Char.ofNat 0 || isBlank ch)

def DeviceProbe.readMachineId (replies : DeviceReplies) : String :=
  match (replies.serialNumber.map readSerialNumber).getD [] with
  | first :: rest => String.ofList (first :: rest)
  | [] =>
      match replies.machineId with
      | none => "unknown"
      | some content =>
          let id := ((firstLine content).reverse.dropWhile isBlank).reverse
          if id = [] then "unknown" else String.ofList id

def DeviceProbe.readHostname (replies : DeviceReplies) : String :=
  match replies.hostname, replies.hostnameFile with
  | some name, _ => name
  | none, some content => String.ofList (firstLine content)
  | none, none => "unknown"

def unquote (value : List Char) : List Char :=
  if value.length ≥ 2 && value.head? == some '"' && value.getLast? == some '"' then
    value.tail.dropLast
  else value

def OsInfo.assign (os : OsInfo) (line : List Char) : OsInfo :=
  match line.dropWhile (· != '=') with
  | [] => os
  | _ :: rest =>
      let key := line.takeWhile (· != '=')
      let value := String.ofList (unquote rest)
      if key = "ID".toList then { os with distro := value }
      else if key = "VERSION_ID".toList then { os with version := value }
      else if key = "BUILD_ID".toList then { os with buildId := value }
      else os

def DeviceProbe.readOsRelease (replies : DeviceReplies) : OsInfo :=
  match replies.osRelease with
  | none => {}
  | some content =>
      let os := (content.toList.splitOn '\n').foldl OsInfo.assign {}
      match replies.uname with
      | none => os
      | some uts => { os with kernel := uts.release }

/-- The identifier of the configuration goes first. The platform is never detected. -/
def DeviceProbe.collect (config : Config) (replies : DeviceReplies) : ProbeResult DeviceInfo :=
  let info : DeviceInfo := {
    deviceId := if config.deviceId = "" then readMachineId replies else config.deviceId
    platform := config.platform
    hostname := readHostname replies
    os := readOsRelease replies }
  match replies.uname with
  | none => .ok info
  | some uts => .ok { info with
      arch := uts.machine
      os.kernel := if info.os.kernel = "" then uts.release else info.os.kernel }

theorem DeviceProbe.readMachineId_ne_empty (replies : DeviceReplies) :
    readMachineId replies ≠ "" := by
  unfold readMachineId
  cases serial : (replies.serialNumber.map readSerialNumber).getD [] with
  | cons first rest => simp
  | nil =>
      cases replies.machineId with
      | none => simp
      | some content =>
          by_cases trimmed : ((firstLine content).reverse.dropWhile isBlank).reverse = []
          · simp [trimmed]
          · simp only [trimmed, if_false]
            intro empty
            exact trimmed (String.ofList_eq_empty_iff.mp empty)

theorem DeviceProbe.collect_deviceId {config : Config} {replies : DeviceReplies}
    {info : DeviceInfo} (collected : collect config replies = .ok info) :
    info.deviceId = if config.deviceId = "" then readMachineId replies else config.deviceId := by
  unfold collect at collected
  cases named : replies.uname with
  | none =>
      rw [named] at collected
      rw [← Except.ok.inj collected]
  | some uts =>
      rw [named] at collected
      rw [← Except.ok.inj collected]

theorem DeviceProbe.collect_deviceId_ne_empty {config : Config} {replies : DeviceReplies}
    {info : DeviceInfo} (collected : collect config replies = .ok info) : info.deviceId ≠ "" := by
  rw [collect_deviceId collected]
  split
  · exact readMachineId_ne_empty replies
  · assumption

end EdgeHealthd
