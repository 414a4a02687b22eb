import Mathlib.Algebra.Group.Nat.Defs
import Mathlib.Tactic.Common
import Rito.HttpsWebsocketClient
import Rito.LcuProcessHandler

namespace Rito

-- How a ReadProcessMemory call ends. A call that fails leaves `buffer` in the
-- local buffer, which nothing was written to before.
inductive ReadOutcome where
  | succeeds
  | fails (buffer : Bytes)
  deriving DecidableEq, Repr

-- The structures of the Windows headers: the size of a pointer and of each
-- structure that is read, and where the fields lie in them.
structure WindowsLayout where
  pointerSize : Nat
  peb : Nat
  processParameters : Nat
  userProcessParameters : Nat
  commandLineLength : Nat
  commandLineBuffer : Nat
  deriving DecidableEq, Repr

-- What extract_process_command() runs on: whether Ntdll.dll and the function in
-- it are found, how NtQueryInformationProcess ends and what process_info holds
-- after it, how the three reads end, the memory of the process and that of the
-- caller (`none` where a read faults), and the conversion from UTF-16.
structure CommandExtraction where
  layout : WindowsLayout
  ntDll : Bool
  queryInformation : Bool
  status : Bool
  processInfo : Bytes
  readPeb : ReadOutcome
  readParameters : ReadOutcome
  readCommand : ReadOutcome
  target : Nat → UInt8
  own : Nat → Option UInt8
  convert : List UInt16 → List Char

namespace LcuProcessHandler.Windows

def littleEndian (bytes : Bytes) : Nat :=
  bytes.foldr (fun byte value => byte.toNat + 256 * value) 0

-- The bytes of a process from an address on.
def readBytes (memory : Nat → UInt8) (address size : Nat) : Bytes :=
  (List.range size).map fun index => memory (address + index)

-- What is in the local buffer after ReadProcessMemory.
def readProcessMemory (memory : Nat → UInt8) (address size : Nat) : ReadOutcome → Bytes
  | .succeeds => readBytes memory address size
  | .fails buffer => buffer

-- The little-endian number of `size` bytes in a buffer.
def numberAt (buffer : Bytes) (offset size : Nat) : Nat :=
  littleEndian ((buffer.drop offset).take size)

def words : Bytes → List UInt16
  | low :: high :: rest => (low.toUInt16 ||| high.toUInt16 <<< 8) :: words rest
  | _ => []

def wordAt (memory : Nat → Option UInt8) (address : Nat) : Option UInt16 :=
  match memory address, memory (address + 1) with
  | some low, some high => some (low.toUInt16 ||| high.toUInt16 <<< 8)
  | _, _ => none

-- The wide string at an address, up to its NUL: undefined where reading it
-- faults or runs on for `left` characters.
def wideString (memory : Nat → Option UInt8) : Nat → Nat → Option (List UInt16)
  | 0, _ => none
  | left + 1, address =>
      match wordAt memory address with
      | none => none
      | some word =>
          if word = 0 then some []
          else (wideString memory left (address + 2)).map (word :: ·)

def addressSpace : Nat := 2 ^ 64

end LcuProcessHandler.Windows

namespace CommandExtraction

open LcuProcessHandler LcuProcessHandler.Windows

-- The second pointer of the PROCESS_BASIC_INFORMATION.
def peb (extraction : CommandExtraction) : Nat :=
  numberAt extraction.processInfo extraction.layout.pointerSize extraction.layout.pointerSize

def pebBuffer (extraction : CommandExtraction) : Bytes :=
  readProcessMemory extraction.target extraction.peb extraction.layout.peb extraction.readPeb

def processParameters (extraction : CommandExtraction) : Nat :=
  numberAt extraction.pebBuffer extraction.layout.processParameters extraction.layout.pointerSize

def processParametersBuffer (extraction : CommandExtraction) : Bytes :=
  readProcessMemory extraction.target extraction.processParameters
    extraction.layout.userProcessParameters extraction.readParameters

-- CommandLine.Buffer and CommandLine.Length, a USHORT.
def command (extraction : CommandExtraction) : Nat :=
  numberAt extraction.processParametersBuffer extraction.layout.commandLineBuffer
    extraction.layout.pointerSize

def commandLength (extraction : CommandExtraction) : Nat :=
  numberAt extraction.processParametersBuffer extraction.layout.commandLineLength 2

-- Where the command line goes, and from where it is not read again.
def commandBuffer (extraction : CommandExtraction) : Bytes :=
  readProcessMemory extraction.target extraction.command extraction.commandLength
    extraction.readCommand

-- No status is looked at, and what is converted is at `command` in the caller's
-- memory. The function is undefined where reading there faults.
def extractProcessCommand (extraction : CommandExtraction) :
    Option (Except Exception (List Char)) :=
  if !extraction.ntDll then
    some (.error (.lcuParameters "Unable to dynamically load Ntdll.dll"))
  else if !extraction.queryInformation then
    some (.error (.lcuParameters
      "Unable to retrieve NtQueryInformationProcess function pointer from Ntdll.dll"))
  else (wideString extraction.own addressSpace extraction.command).map fun text =>
    .ok (extraction.convert text)

-- The process's own parameters, from its memory alone.
def targetParameters (extraction : CommandExtraction) : Bytes :=
  readBytes extraction.target
    (numberAt (readBytes extraction.target extraction.peb extraction.layout.peb)
      extraction.layout.processParameters extraction.layout.pointerSize)
    extraction.layout.userProcessParameters

def targetBuffer (extraction : CommandExtraction) : Nat :=
  numberAt extraction.targetParameters extraction.layout.commandLineBuffer
    extraction.layout.pointerSize

-- The CommandLine.Length bytes at CommandLine.Buffer in its memory, converted.
def commandLine (extraction : CommandExtraction) : List Char :=
  extraction.convert (words (readBytes extraction.target extraction.targetBuffer
    (numberAt extraction.targetParameters extraction.layout.commandLineLength 2)))

def Loaded (extraction : CommandExtraction) : Prop :=
  extraction.ntDll = true ∧ extraction.queryInformation = true

instance (extraction : CommandExtraction) : Decidable extraction.Loaded :=
  inferInstanceAs (Decidable (_ ∧ _))

def AllSucceed (extraction : CommandExtraction) : Prop :=
  extraction.status = true ∧ extraction.readPeb = .succeeds ∧
    extraction.readParameters = .succeeds ∧ extraction.readCommand = .succeeds

instance (extraction : CommandExtraction) : Decidable extraction.AllSucceed :=
  inferInstanceAs (Decidable (_ ∧ _))

-- The command line of the process if every call succeeds, and else the
-- documented exception.
def ReturnsCommandLine (extraction : CommandExtraction) : Prop :=
  (extraction.Loaded ∧ extraction.AllSucceed →
      extraction.extractProcessCommand = some (.ok extraction.commandLine)) ∧
    (¬(extraction.Loaded ∧ extraction.AllSucceed) →
      ∃ what, extraction.extractProcessCommand = some (.error (.lcuParameters what)))

-- The caller has a wide string of its own at the address that the process keeps
-- its command line at, and it reads the same.
def OwnMemoryAgrees (extraction : CommandExtraction) : Prop :=
  ∃ text, wideString extraction.own addressSpace extraction.targetBuffer = some text ∧
    extraction.convert text = extraction.commandLine

variable {extraction : CommandExtraction}

theorem processParametersBuffer_eq (h : extraction.AllSucceed) :
    extraction.processParametersBuffer = extraction.targetParameters := by
  obtain ⟨-, hpeb, hparameters, -⟩ := h
  simp only [processParametersBuffer, processParameters, pebBuffer, hpeb, hparameters,
    readProcessMemory, targetParameters]

theorem command_eq (h : extraction.AllSucceed) : extraction.command = extraction.targetBuffer := by
  rw [command, processParametersBuffer_eq h, targetBuffer]

theorem extractProcessCommand_of_loaded (h : extraction.Loaded) :
    extraction.extractProcessCommand =
      (wideString extraction.own addressSpace extraction.command).map fun text =>
        .ok (extraction.convert text) := by
  obtain ⟨hdll, hquery⟩ := h
  simp only [extractProcessCommand, hdll, hquery, Bool.not_true, Bool.false_eq_true, if_false]

theorem extractProcessCommand_of_not_loaded (h : ¬extraction.Loaded) :
    ∃ what, extraction.extractProcessCommand = some (.error (.lcuParameters what)) := by
  by_cases hdll : extraction.ntDll = true
  · have hquery : extraction.queryInformation = false := by
      by_contra hn
      exact h ⟨hdll, by simpa using hn⟩
    simp only [extractProcessCommand, hdll, hquery, Bool.not_true, Bool.false_eq_true, if_false,
      Bool.not_false, if_true]
    exact ⟨_, rfl⟩
  · simp only [extractProcessCommand, hdll, Bool.not_false, if_true]
    exact ⟨_, rfl⟩

-- Once the function is found, no outcome of the four calls is an exception.
theorem extractProcessCommand_ne_error (h : extraction.Loaded) (exception : Exception) :
    extraction.extractProcessCommand ≠ some (.error exception) := by
  rw [extractProcessCommand_of_loaded h]
  cases wideString extraction.own addressSpace extraction.command <;> simp

-- This is what comes back exactly where the library cannot be loaded, or where
-- every call succeeds and the caller's own memory reads the same.
theorem command_line_iff (extraction : CommandExtraction) :
    extraction.ReturnsCommandLine ↔
      (extraction.Loaded → extraction.AllSucceed ∧ extraction.OwnMemoryAgrees) := by
  by_cases hload : extraction.Loaded
  · by_cases hall : extraction.AllSucceed
    · have hresult : extraction.extractProcessCommand = some (.ok extraction.commandLine) ↔
          extraction.OwnMemoryAgrees := by
        rw [extractProcessCommand_of_loaded hload, command_eq hall, Option.map_eq_some_iff]
        simp only [Except.ok.injEq, OwnMemoryAgrees]
      simp [ReturnsCommandLine, hload, hall, hresult]
    · have hno : ¬∃ what, extraction.extractProcessCommand =
          some (.error (.lcuParameters what)) := by
        rintro ⟨what, hwhat⟩
        exact extractProcessCommand_ne_error hload _ hwhat
      simp [ReturnsCommandLine, hload, hall, hno]
  · have hthrows := extractProcessCommand_of_not_loaded hload
    simp [ReturnsCommandLine, hload, hthrows]

-- The structures of winternl.h on a 64-bit system.
def layout64 : WindowsLayout := ⟨8, 712, 32, 128, 112, 120⟩

-- A process with the command line `Ux`, and a caller with `no` at its address.
def otherText : CommandExtraction where
  layout := layout64
  ntDll := true
  queryInformation := true
  status := true
  processInfo := [0, 0, 0, 0, 0, 0, 0, 0, 0, 0x10, 0, 0, 0, 0, 0, 0]
  readPeb := .succeeds
  readParameters := .succeeds
  readCommand := .succeeds
  target := fun address =>
    (List.lookup address [(0x1021, 0x20), (0x2070, 4), (0x2079, 0x30), (0x3000, 0x55),
      (0x3002, 0x78)]).getD 0
  own := fun address =>
    List.lookup address [(0x3000, 0x6e), (0x3001, 0), (0x3002, 0x6f), (0x3003, 0), (0x3004, 0),
      (0x3005, 0)]
  convert := fun words => words.map fun word => Char.ofNat word.toNat

theorem otherText_misread :
    otherText.commandLine = ['U', 'x'] ∧
      otherText.extractProcessCommand = some (.ok ['n', 'o']) ∧ ¬otherText.ReturnsCommandLine := by
  have hline : otherText.commandLine = ['U', 'x'] := by decide +kernel
  have hresult : otherText.extractProcessCommand = some (.ok ['n', 'o']) := by decide +kernel
  refine ⟨hline, hresult, fun h => ?_⟩
  have hreturned := h.1 (by decide)
  rw [hresult, hline] at hreturned
  exact absurd hreturned (by decide)

-- The address that the scan of the process table hands on is the one read here.
theorem extractProcessCommand_eq (processes : Option (List WindowsProcess))
    (process : WindowsProcess) (hc : process.command = extraction.command) :
    LcuProcessHandler.Windows.extractProcessCommand
        ⟨processes, extraction.ntDll, extraction.queryInformation, fun address =>
          (wideString extraction.own addressSpace address).map extraction.convert⟩ process =
      extraction.extractProcessCommand := by
  rw [LcuProcessHandler.Windows.extractProcessCommand, CommandExtraction.extractProcessCommand, hc,
    Option.map_map]
  rfl

end CommandExtraction

end Rito
