import Mathlib.Data.List.Forall2
import Rito.LcuProcessHandler
import Rito.Ledger

namespace Rito

-- The calls of the Windows API that take or give a process handle: `none` is
-- the null handle.
inductive WindowsCall (η : Type*) where
  | openProcess (processId : UInt32) (handle : Option η)
  | enumProcessModules (handle : Option η)
  | getModuleBaseName (handle : Option η)
  | ntQueryInformationProcess (handle : Option η)
  | readProcessMemory (handle : Option η)
  | closeHandle (handle : Option η)
  deriving DecidableEq

-- A process id of the list, and what the calls made for it come to: the handle
-- that OpenProcess gives, the module name, and the end of
-- extract_process_command(), an exception after so many of its calls or a value.
structure ProcessVisit (η : Type*) where
  processId : UInt32
  handle : Option η
  modules : Bool
  moduleBaseName : List Char
  command : Except (Nat × Thrown) (List Char)

-- What EnumProcesses lists if it succeeds.
structure WindowsScan (η : Type*) where
  processes : Option (List (ProcessVisit η))

namespace WindowsCall

variable {η : Type*}

-- What a call does with a handle that is not null.
def events : WindowsCall η → List (HandleEvent η)
  | openProcess _ (some handle) => [.opened handle]
  | enumProcessModules (some handle) | getModuleBaseName (some handle)
  | ntQueryInformationProcess (some handle) | readProcessMemory (some handle) => [.used handle]
  | closeHandle (some handle) => [.closed handle]
  | _ => []

end WindowsCall

namespace ProcessVisit

open LcuProcessHandler

variable {η : Type*}

-- The name, and the calls on the handle.
def extractProcessName (visit : ProcessVisit η) : List Char × List (WindowsCall η) :=
  if visit.handle.isSome then
    if visit.modules then
      (visit.moduleBaseName, [.enumProcessModules visit.handle, .getModuleBaseName visit.handle])
    else ([], [.enumProcessModules visit.handle])
  else ([], [])

-- The calls of extract_process_command() on the handle. It closes none.
def commandCalls (visit : ProcessVisit η) : List (WindowsCall η) :=
  [.ntQueryInformationProcess visit.handle, .readProcessMemory visit.handle,
    .readProcessMemory visit.handle, .readProcessMemory visit.handle]

def extractProcessCommand (visit : ProcessVisit η) :
    Except Thrown (List Char) × List (WindowsCall η) :=
  match visit.command with
  | .ok processCommand => (.ok processCommand, visit.commandCalls)
  | .error (made, thrown) => (.error thrown, visit.commandCalls.take made)

-- One iteration of the loop with an id that is not 0. It goes on where nothing
-- is returned or thrown.
def iterate (visit : ProcessVisit η) :
    Option (Except Thrown (List Char)) × List (WindowsCall η) :=
  let (processName, nameCalls) := visit.extractProcessName
  let calls := .openProcess visit.processId visit.handle :: nameCalls
  if processName = lcuExecutable then
    match visit.extractProcessCommand with
    | (.error thrown, commandCalls) =>
        -- the catch clause
        (some (.error thrown), calls ++ commandCalls ++ [.closeHandle visit.handle])
    | (.ok processCommand, commandCalls) =>
        (some (.ok processCommand), calls ++ commandCalls ++ [.closeHandle visit.handle])
  else (none, calls ++ [.closeHandle visit.handle])

-- The loop of get_lcu_process_command(), and the throw behind it.
def findCommand : List (ProcessVisit η) → Except Thrown (List Char) × List (WindowsCall η)
  | [] => (.error (.rito (.lcuParameters "Unable to find League Client process")), [])
  | visit :: rest =>
      if visit.processId ≠ 0 then
        match visit.iterate with
        | (some result, calls) => (result, calls)
        | (none, calls) =>
            let (result, later) := findCommand rest
            (result, calls ++ later)
      else findCommand rest

end ProcessVisit

namespace WindowsScan

open LcuProcessHandler.Windows

def getLcuProcessCommand {η : Type*} (scan : WindowsScan η) :
    Except Thrown (List Char) × List (WindowsCall η) :=
  match scan.processes with
  | none =>
      (.error (.rito (.lcuParameters "Unable to to enumerate processes with EnumProcesses")), [])
  | some processes => ProcessVisit.findCommand (processes.take maxProcessCount)

end WindowsScan

namespace WindowsCall

variable {η : Type*} {handle : Option η} {calls : List (WindowsCall η)}

-- The call reads a process through this handle.
def Uses (handle : Option η) (call : WindowsCall η) : Prop :=
  call.events = (handle.map HandleEvent.used).toList

theorem events_of_uses (h : ∀ call ∈ calls, call.Uses handle) :
    ∀ event ∈ calls.flatMap events, ∃ opened ∈ handle, event = .used opened := by
  intro event hm
  obtain ⟨call, hin, he⟩ := List.mem_flatMap.mp hm
  rw [h call hin, Option.mem_toList, Option.map_eq_some_iff] at he
  obtain ⟨opened, hopened, rfl⟩ := he
  exact ⟨opened, hopened, rfl⟩

-- A null handle is nothing to the ledger; any other is closed where the
-- iteration ends.
theorem settles_of_uses [DecidableEq η] {processId : UInt32}
    (h : ∀ call ∈ calls, call.Uses handle) :
    Settles
      ((.openProcess processId handle :: (calls ++ [.closeHandle handle])).flatMap events) := by
  have huses := events_of_uses h
  simp only [List.flatMap_cons, List.flatMap_append, List.flatMap_nil, List.append_nil]
  cases handle with
  | none =>
      have hnone : calls.flatMap events = [] := by
        apply List.eq_nil_iff_forall_not_mem.mpr
        intro event hm
        obtain ⟨opened, ho, -⟩ := huses event hm
        cases ho
      rw [hnone]
      exact settles_nil
  | some handle =>
      apply settles_bracket
      intro event hm
      obtain ⟨opened, ho, he⟩ := huses event hm
      rw [he, Option.some.inj ho]

end WindowsCall

namespace ProcessVisit

open LcuProcessHandler WindowsCall

variable {η : Type*} {visit : ProcessVisit η} {call : WindowsCall η}

theorem uses_of_mem_name (hm : call ∈ visit.extractProcessName.2) : call.Uses visit.handle := by
  unfold extractProcessName at hm
  cases hh : visit.handle with
  | none => simp [hh] at hm
  | some handle =>
      cases hmodules : visit.modules with
      | false =>
          obtain rfl : call = .enumProcessModules (some handle) := by simpa [hh, hmodules] using hm
          rfl
      | true =>
          have hcases : call = .enumProcessModules (some handle) ∨
              call = .getModuleBaseName (some handle) := by
            simpa [hh, hmodules] using hm
          rcases hcases with rfl | rfl <;> rfl

theorem uses_of_mem_command (hm : call ∈ visit.extractProcessCommand.2) :
    call.Uses visit.handle := by
  have hcalls : call ∈ visit.commandCalls := by
    unfold extractProcessCommand at hm
    cases hc : visit.command with
    | ok processCommand =>
        rw [hc] at hm
        exact hm
    | error ending =>
        rw [hc] at hm
        exact List.mem_of_mem_take hm
  have hcases : call = .ntQueryInformationProcess visit.handle ∨
      call = .readProcessMemory visit.handle := by
    simpa [commandCalls] using hcalls
  rcases hcases with rfl | rfl
  · unfold Uses
    cases visit.handle <;> rfl
  · unfold Uses
    cases visit.handle <;> rfl

-- The process is the client's: what extract_process_command() comes to is
-- returned or thrown, and the handle is closed before that.
theorem iterate_of_match (hn : visit.extractProcessName.1 = lcuExecutable) :
    visit.iterate = (some visit.extractProcessCommand.1,
      .openProcess visit.processId visit.handle ::
        (visit.extractProcessName.2 ++ visit.extractProcessCommand.2 ++
          [.closeHandle visit.handle])) := by
  unfold iterate
  rcases hname : visit.extractProcessName with ⟨processName, nameCalls⟩
  have heq : processName = lcuExecutable := by simpa [hname] using hn
  rcases visit.extractProcessCommand with ⟨thrown | processCommand, commandCalls⟩
  · simp only [heq, if_true, List.cons_append]
  · simp only [heq, if_true, List.cons_append]

theorem iterate_of_other (hn : visit.extractProcessName.1 ≠ lcuExecutable) :
    visit.iterate = (none, .openProcess visit.processId visit.handle ::
      (visit.extractProcessName.2 ++ [.closeHandle visit.handle])) := by
  unfold iterate
  rcases hname : visit.extractProcessName with ⟨processName, nameCalls⟩
  have hne : processName ≠ lcuExecutable := by simpa [hname] using hn
  simp only [hne, if_false, List.cons_append]

-- Whichever way an iteration ends, it opens a handle, uses it and closes it.
theorem iterate_calls (visit : ProcessVisit η) :
    ∃ calls, visit.iterate.2 =
        .openProcess visit.processId visit.handle :: (calls ++ [.closeHandle visit.handle]) ∧
      ∀ call ∈ calls, call.Uses visit.handle := by
  by_cases hn : visit.extractProcessName.1 = lcuExecutable
  · refine ⟨visit.extractProcessName.2 ++ visit.extractProcessCommand.2, ?_, fun call hm => ?_⟩
    · rw [iterate_of_match hn]
    · rcases List.mem_append.mp hm with hm | hm
      · exact uses_of_mem_name hm
      · exact uses_of_mem_command hm
  · refine ⟨visit.extractProcessName.2, ?_, fun call hm => uses_of_mem_name hm⟩
    rw [iterate_of_other hn]

theorem iterate_settles [DecidableEq η] (visit : ProcessVisit η) :
    Settles (visit.iterate.2.flatMap events) := by
  obtain ⟨calls, hcalls, huses⟩ := visit.iterate_calls
  rw [hcalls]
  exact settles_of_uses huses

theorem findCommand_settles [DecidableEq η] (visits : List (ProcessVisit η)) :
    Settles ((findCommand visits).2.flatMap events) := by
  induction visits with
  | nil => exact settles_nil
  | cons visit rest ih =>
      have hiterate := visit.iterate_settles
      rw [findCommand]
      by_cases hid : visit.processId ≠ 0
      · rw [if_pos hid]
        rcases hv : visit.iterate with ⟨_ | result, calls⟩
        · rw [hv] at hiterate
          rw [List.flatMap_append]
          exact hiterate.append ih
        · rw [hv] at hiterate
          exact hiterate
      · rw [if_neg hid]
        exact ih

-- The calls come to what the system makes of them.
structure Shows (system : WindowsSystem) (process : WindowsProcess) (visit : ProcessVisit η) :
    Prop where
  processId : visit.processId = process.processId
  handle : visit.handle.isSome = process.opens
  modules : visit.modules = process.modules
  moduleBaseName : visit.moduleBaseName = process.moduleBaseName
  command : ∀ result, Windows.extractProcessCommand system process = some result →
    visit.extractProcessCommand.1 = result.mapError .rito

variable {system : WindowsSystem} {process : WindowsProcess} {processes : List WindowsProcess}
  {visits : List (ProcessVisit η)}

theorem Shows.extractProcessName (h : visit.Shows system process) :
    visit.extractProcessName.1 = Windows.extractProcessName process := by
  rw [Windows.extractProcessName, ← h.handle, ← h.modules, ← h.moduleBaseName,
    ProcessVisit.extractProcessName]
  cases visit.handle.isSome <;> cases visit.modules <;> rfl

-- The process the loop stops at is the one that the scan of the table finds.
theorem findCommand_fst (h : List.Forall₂ (Shows system) processes visits) :
    (Windows.findProcess processes = none ∧ (findCommand visits).1 =
        .error (.rito (.lcuParameters "Unable to find League Client process"))) ∨
      ∃ (process : WindowsProcess) (visit : ProcessVisit η),
        Windows.findProcess processes = some process ∧ visit.Shows system process ∧
          (findCommand visits).1 = visit.extractProcessCommand.1 := by
  induction h with
  | nil => exact Or.inl ⟨rfl, rfl⟩
  | @cons process visit processes visits hs _ ih =>
      rw [Windows.findProcess, findCommand, hs.processId, ← hs.extractProcessName]
      by_cases hid : process.processId ≠ 0
      · rw [if_pos hid, if_pos hid]
        by_cases hn : visit.extractProcessName.1 = lcuExecutable
        · rw [if_pos hn, iterate_of_match hn]
          exact Or.inr ⟨process, visit, rfl, hs, rfl⟩
        · rw [if_neg hn, iterate_of_other hn]
          exact ih
      · rw [if_neg hid, if_neg hid]
        exact ih

end ProcessVisit

-- With its handles left out the scan is that of the system.
theorem WindowsScan.getLcuProcessCommand_fst {η : Type*} {system : WindowsSystem}
    {processes : List WindowsProcess} {visits : List (ProcessVisit η)}
    {result : Except Exception (List Char)} (hp : system.processes = some processes)
    (hv : List.Forall₂ (ProcessVisit.Shows system) processes visits)
    (h : LcuProcessHandler.Windows.getLcuProcessCommand system = some result) :
    (WindowsScan.mk (some visits)).getLcuProcessCommand.1 = result.mapError .rito := by
  have htake := List.forall₂_take LcuProcessHandler.Windows.maxProcessCount hv
  simp only [LcuProcessHandler.Windows.getLcuProcessCommand, hp] at h
  simp only [getLcuProcessCommand]
  rcases ProcessVisit.findCommand_fst htake with ⟨hnone, hthrows⟩ |
    ⟨process, visit, hfind, hs, hresult⟩
  · rw [hnone] at h
    rw [hthrows, ← Option.some.inj h]
    rfl
  · rw [hfind] at h
    rw [hresult]
    exact hs.command result h

-- However the scan ends, each handle it was given has been closed once, and
-- none was used or closed again after that.
theorem WindowsScan.handles_closed_once {η : Type*} [DecidableEq η] (scan : WindowsScan η) :
    ClosedOnce (scan.getLcuProcessCommand.2.flatMap WindowsCall.events) := by
  apply Settles.closedOnce
  unfold getLcuProcessCommand
  cases scan.processes with
  | none => exact settles_nil
  | some processes => exact ProcessVisit.findCommand_settles _

-- The second process cannot be opened, and reading the third one's command line
-- fails: its handle is closed before the exception leaves.
example :
    let scan : WindowsScan Nat := ⟨some [⟨0, none, false, [], .ok []⟩,
      ⟨4, none, false, [], .ok []⟩,
      ⟨8, some 1, true, LcuProcessHandler.lcuExecutable, .error (1, .std "")⟩]⟩
    scan.getLcuProcessCommand.2.flatMap WindowsCall.events =
      [.opened 1, .used 1, .used 1, .used 1, .closed 1] := rfl

end Rito
