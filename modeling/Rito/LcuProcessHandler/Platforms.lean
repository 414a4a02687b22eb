import Mathlib.Data.Nat.Digits.Defs
import Rito.LcuProcessHandler.Scan

namespace Rito

-- A process of the table both implementations look at. `address` is where it
-- keeps its command line, and `overwritten` what the memory of its name comes to
-- on Linux.
structure TableProcess where
  processId : UInt32
  executableName : List Char
  commandLine : List Char
  address : Nat
  overwritten : List Char
  numbered : processId ≠ 0

namespace TableProcess

def procEntry (process : TableProcess) : ProcEntry where
  name := Nat.toDigits 10 process.processId.toNat
  cmdline := process.commandLine
  overwritten := process.overwritten

def windowsProcess (process : TableProcess) : WindowsProcess where
  processId := process.processId
  opens := true
  modules := true
  moduleBaseName := process.executableName
  command := process.address

end TableProcess

namespace ProcessTable

open LcuProcessHandler

variable {table : List TableProcess} {memory : Nat → Option (List Char)} {command text : List Char}

-- The process directory that lists the table.
def linux (table : List TableProcess) : ProcDirectory where
  path := "/proc"
  entries := table.map TableProcess.procEntry
  fails := false

-- The system on which every call of the Windows API succeeds and tells of the
-- table, with what the calling process has in its own memory.
def windows (table : List TableProcess) (memory : Nat → Option (List Char)) : WindowsSystem where
  processes := some (table.map TableProcess.windowsProcess)
  ntDll := true
  queryInformation := true
  memory := memory

-- Equal parameters, or the same of the two documented exceptions.
def Agree : Except Thrown LcuParameters → Option (Except Thrown LcuParameters) → Prop
  | .ok parameters, some (.ok other) => parameters = other
  | .error (.rito (.lcuNotRunning _)), some (.error (.rito (.lcuNotRunning _))) => True
  | .error (.rito (.lcuParameters _)), some (.error (.rito (.lcuParameters _))) => True
  | _, _ => False

-- Both command lines yield one token and, as an int cut to 16 bits, one port,
-- or neither yields a token and a port.
def SameParameters (command text : List Char) : Prop :=
  (∃ token port other, Yields command token port ∧ Yields text token other ∧
      port < 2 ^ 31 ∧ other < 2 ^ 31 ∧ port % 2 ^ 16 = other % 2 ^ 16) ∨
    (∀ token port, ¬Yields command token port) ∧ ∀ token port, ¬Yields text token port

-- A command line whose first line names the executable is there for Linux. Of
-- the processes EnumProcesses has room for, Windows takes the first with the
-- name, and reads its own memory at that process's address.
def SameReading (table : List TableProcess) (memory : Nat → Option (List Char)) : Prop :=
  ∃ process ∈ table.find? (fun process => contains lcuExecutable
      (Linux.getline process.commandLine)),
    match (table.take Windows.maxProcessCount).find? (fun other =>
        other.executableName = lcuExecutable) with
    | some other => ∃ text ∈ memory other.address,
        SameParameters (Linux.getline process.commandLine) text
    | none => ∀ token port, ¬Yields (Linux.getline process.commandLine) token port

-- The name of a process directory is its own stem, and a process id is too
-- short for the heap.
theorem isPositiveInteger_procId (process : TableProcess) :
    isPositiveInteger (Linux.procId process.procEntry) = true := by
  have hdigits : (Nat.toDigits 10 process.processId.toNat).all Char.isDigit = true := by
    rw [List.all_eq_true]
    intro digit hm
    exact Nat.isDigit_of_mem_toDigits (Nat.succ_pos 9) (Nat.le_refl 10) hm
  have hname : isPositiveInteger process.procEntry.name = true := by
    rw [TableProcess.procEntry, isPositiveInteger, hdigits, Bool.and_true, Bool.not_eq_true',
      List.isEmpty_eq_false_iff]
    exact Nat.toDigits_ne_nil
  have hlength : process.procEntry.name.length ≤ Linux.localCapacity := by
    have hlt : process.processId.toNat < 10 ^ 15 :=
      Nat.lt_trans process.processId.toNat_lt (by norm_num)
    exact Nat.toDigits_length 10 _ 15 (Nat.succ_pos 14) hlt
  have hstem := stem_of_isPositiveInteger hname
  rw [procId_of_length (by rw [hstem]; exact hlength), hstem]
  exact hname

theorem linux_find : (linux table).entries.find? (·.Mentions) =
    (table.find? fun process => contains lcuExecutable (Linux.getline process.commandLine)).map
      TableProcess.procEntry := by
  rw [linux, List.find?_map]
  congr 2
  funext process
  have hcmdline : process.procEntry.cmdline = process.commandLine := rfl
  simp [ProcEntry.Mentions, isPositiveInteger_procId, hcmdline]

theorem findProcess_eq (processes : List TableProcess) :
    Windows.findProcess (processes.map TableProcess.windowsProcess) =
      (processes.find? fun process => process.executableName = lcuExecutable).map
        TableProcess.windowsProcess := by
  induction processes with
  | nil => rfl
  | cons process rest ih =>
      by_cases hn : process.executableName = lcuExecutable
      · simp [Windows.findProcess, Windows.extractProcessName, TableProcess.windowsProcess, hn,
          process.numbered]
      · rw [List.find?_cons_of_neg (by simpa using hn), ← ih]
        simp [Windows.findProcess, Windows.extractProcessName, TableProcess.windowsProcess, hn]

theorem linux_eq : Linux.getLcuProcessParameters (linux table) =
    match table.find? fun process => contains lcuExecutable (Linux.getline process.commandLine) with
    | some process => parametersOf (Linux.getline process.commandLine)
    | none => .error (.rito (.lcuNotRunning "Unable to find League Client process")) := by
  rw [ProcDirectory.getLcuProcessParameters_eq, linux_find]
  cases table.find? fun process => contains lcuExecutable (Linux.getline process.commandLine) with
  | some process => rfl
  | none => rfl

theorem windows_eq : Windows.getLcuProcessParameters (windows table memory) =
    match (table.take Windows.maxProcessCount).find? fun other =>
      other.executableName = lcuExecutable with
    | some other => (memory other.address).map parametersOf
    | none => some (.error (.rito (.lcuParameters "Unable to find League Client process"))) := by
  unfold Windows.getLcuProcessParameters Windows.getLcuProcessCommand
  simp only [windows, ← List.map_take, findProcess_eq]
  cases (table.take Windows.maxProcessCount).find? fun other =>
    other.executableName = lcuExecutable with
  | none => rfl
  | some other =>
      simp only [Option.map_some, Windows.extractProcessCommand, Bool.not_true, Bool.false_eq_true,
        if_false, TableProcess.windowsProcess]
      cases memory other.address with
      | none => rfl
      | some text => rfl

-- The parameters a token and a port are returned as.
theorem mk_eq_iff {token other : List Char} {port otherPort : Nat} :
    ({ remotingAuthToken := String.ofList token, appPort := UInt16.ofNat port } : LcuParameters) =
        { remotingAuthToken := String.ofList other, appPort := UInt16.ofNat otherPort } ↔
      token = other ∧ port % 2 ^ 16 = otherPort % 2 ^ 16 := by
  rw [LcuParameters.mk.injEq, String.ofList_inj, ← UInt16.toNat_inj, UInt16.toNat_ofNat',
    UInt16.toNat_ofNat']

theorem sameParameters_comm : SameParameters command text ↔ SameParameters text command := by
  have himp : ∀ {one two : List Char}, SameParameters one two → SameParameters two one := by
    intro one two h
    rcases h with ⟨token, port, other, hy, hy', hp, ho, he⟩ | ⟨hn, hn'⟩
    · exact Or.inl ⟨token, other, port, hy', hy, ho, hp, he.symm⟩
    · exact Or.inr ⟨hn', hn⟩
  exact ⟨himp, himp⟩

theorem not_sameParameters_of_large {token : List Char} {port : Nat}
    (hy : Yields command token port) (hp : ¬port < 2 ^ 31) : ¬SameParameters command text := by
  rintro (⟨token', port', _, hy', -, hp', -⟩ | ⟨hn, -⟩)
  · obtain ⟨-, rfl⟩ := hy.unique hy'
    exact hp hp'
  · exact hn _ _ hy

theorem sameParameters_iff_of_none (hn : ∀ token port, ¬Yields command token port) :
    SameParameters command text ↔ ∀ token port, ¬Yields text token port := by
  constructor
  · rintro (⟨token, port, _, hy, -⟩ | ⟨-, h⟩)
    · exact absurd hy (hn token port)
    · exact h
  · intro h
    exact Or.inr ⟨hn, h⟩

-- Reading outside the process's memory is no result at all.
theorem not_agree_none {result : Except Thrown LcuParameters} : ¬Agree result none := by
  intro h
  match result, h with
  | .ok _, h => exact h
  | .error _, h => simp [Agree] at h

theorem agree_lcuParameters_iff {result : Except Thrown LcuParameters} {what : String} :
    Agree result (some (.error (.rito (.lcuParameters what)))) ↔
      ∃ what', result = .error (.rito (.lcuParameters what')) := by
  constructor
  · intro h
    match result, h with
    | .error (.rito (.lcuParameters what')), _ => exact ⟨what', rfl⟩
  · rintro ⟨what', rfl⟩
    trivial

theorem lcuParameters_agree_iff {result : Option (Except Thrown LcuParameters)} {what : String} :
    Agree (.error (.rito (.lcuParameters what))) result ↔
      ∃ what', result = some (.error (.rito (.lcuParameters what'))) := by
  constructor
  · intro h
    match result, h with
    | some (.error (.rito (.lcuParameters what'))), _ => exact ⟨what', rfl⟩
  · rintro ⟨what', rfl⟩
    trivial

theorem not_lcuNotRunning_agree {what : String} :
    ¬Agree (.error (.rito (.lcuNotRunning what))) (some (parametersOf text)) := by
  rcases parametersOf_cases text with ⟨_, _, -, -, he⟩ | ⟨_, _, -, -, he⟩ | ⟨-, _, he⟩
  · rw [he]
    exact id
  · rw [he]
    exact id
  · rw [he]
    exact id

theorem agree_iff_sameParameters :
    Agree (parametersOf command) (some (parametersOf text)) ↔ SameParameters command text := by
  rcases parametersOf_cases command with
    ⟨token, port, hy, hp, he⟩ | ⟨token, port, hy, hp, he⟩ | ⟨hn, what, he⟩
  · rcases parametersOf_cases text with
      ⟨other, otherPort, hy', hp', he'⟩ | ⟨other, otherPort, hy', hp', he'⟩ | ⟨hn', what', he'⟩
    · rw [he, he', Agree, mk_eq_iff]
      constructor
      · rintro ⟨rfl, hmod⟩
        exact Or.inl ⟨token, port, otherPort, hy, hy', hp, hp', hmod⟩
      · rintro (⟨token', port', other', hz, hz', -, -, hmod⟩ | ⟨hn, -⟩)
        · obtain ⟨rfl, rfl⟩ := hy.unique hz
          obtain ⟨rfl, rfl⟩ := hy'.unique hz'
          exact ⟨rfl, hmod⟩
        · exact absurd hy (hn token port)
    · rw [he, he', sameParameters_comm]
      exact iff_of_false id (not_sameParameters_of_large hy' hp')
    · rw [he, he', sameParameters_comm, sameParameters_iff_of_none hn']
      exact iff_of_false id fun h => h token port hy
  · have hlarge : ¬SameParameters command text := not_sameParameters_of_large hy hp
    rw [he]
    cases parametersOf text with
    | ok parameters => exact iff_of_false id hlarge
    | error thrown => exact iff_of_false id hlarge
  · rw [he, sameParameters_iff_of_none hn, lcuParameters_agree_iff, ← parametersOf_lcuParameters_iff]
    simp only [Option.some.injEq]

-- The two implementations agree on a table exactly when they come to read the
-- same parameters for it.
theorem platforms_agree_iff (table : List TableProcess) (memory : Nat → Option (List Char)) :
    Agree (Linux.getLcuProcessParameters (linux table))
        (Windows.getLcuProcessParameters (windows table memory)) ↔
      SameReading table memory := by
  rw [linux_eq, windows_eq, SameReading]
  cases table.find? fun process => contains lcuExecutable (Linux.getline process.commandLine) with
  | none =>
      refine iff_of_false ?_ (by simp)
      cases (table.take Windows.maxProcessCount).find? fun other =>
        other.executableName = lcuExecutable with
      | none => exact id
      | some other =>
          dsimp only
          cases memory other.address with
          | none => exact id
          | some text => exact not_lcuNotRunning_agree
  | some process =>
      simp only [Option.mem_def, Option.some.injEq, exists_eq_left']
      cases (table.take Windows.maxProcessCount).find? fun other =>
        other.executableName = lcuExecutable with
      | none =>
          rw [← parametersOf_lcuParameters_iff]
          exact agree_lcuParameters_iff
      | some other =>
          dsimp only
          cases memory other.address with
          | none =>
              rw [Option.map_none]
              exact iff_of_false not_agree_none (by simp)
          | some text =>
              simp only [Option.some.injEq, exists_eq_left', Option.map_some]
              exact agree_iff_sameParameters

-- With no process at all, callers see two different exceptions.
theorem emptyTable_differs :
    Linux.getLcuProcessParameters (linux []) =
        .error (.rito (.lcuNotRunning "Unable to find League Client process")) ∧
      Windows.getLcuProcessParameters (windows [] fun _ => none) =
        some (.error (.rito (.lcuParameters "Unable to find League Client process"))) ∧
      ¬Agree (Linux.getLcuProcessParameters (linux []))
        (Windows.getLcuProcessParameters (windows [] fun _ => none)) := by
  refine ⟨linux_eq, windows_eq, ?_⟩
  rw [linux_eq, windows_eq]
  exact id

end ProcessTable

end Rito
