import Rito.LcuProcessHandler.Resources
import Rito.Progress

namespace Rito

namespace CommandAttempt

-- What extract_process_command() comes to once the function is found.
def read (attempt : CommandAttempt) : Except Thrown (List Char) := do
  attempt.processInfo
  attempt.pebBuffer
  attempt.processParametersBuffer
  attempt.commandBuffer
  attempt.convert

-- The buffers that an exception leaves behind: those allocated before it. The
-- four are deleted behind the last thing that can throw.
def buffers (attempt : CommandAttempt) : Nat :=
  match attempt.processInfo, attempt.pebBuffer, attempt.processParametersBuffer,
    attempt.commandBuffer, attempt.convert with
  | .error _, _, _, _, _ => 0
  | .ok _, .error _, _, _, _ => 1
  | .ok _, .ok _, .error _, _, _ => 2
  | .ok _, .ok _, .ok _, .error _, _ => 3
  | .ok _, .ok _, .ok _, .ok _, .error _ => 4
  | .ok _, .ok _, .ok _, .ok _, .ok _ => 0

variable (impl : LcuProcessHandlerImpl) (attempt : CommandAttempt)

-- A DLL and a function that were found once are not looked for again.
def result : Except Thrown (List Char) :=
  if impl.dllLib || attempt.loadLibrary then
    if impl.ntQueryInformationProcessPtr || attempt.getProcAddress then attempt.read
    else .error (.rito (.lcuParameters
      "Unable to retrieve NtQueryInformationProcess function pointer from Ntdll.dll"))
  else .error (.rito (.lcuParameters "Unable to dynamically load Ntdll.dll"))

def leaked : Nat :=
  if impl.dllLib || attempt.loadLibrary then
    if impl.ntQueryInformationProcessPtr || attempt.getProcAddress then attempt.buffers else 0
  else 0

end CommandAttempt

namespace ProcessAttempt

open LcuProcessHandler

variable (impl : LcuProcessHandlerImpl) (attempt : ProcessAttempt)

def processName : List Char :=
  if attempt.opens && attempt.modules then attempt.moduleBaseName else []

-- The scan goes no further than this process: it is the client's, or the
-- conversion of its name throws.
def stops : Bool :=
  attempt.processId != 0 && (!attempt.convertName.isOk || attempt.processName == lcuExecutable)

-- What the scan comes to at this process.
def result : Except Thrown (List Char) := do
  attempt.convertName
  attempt.command.result impl

-- The conversion of the name is outside the try block, so that the handle stays
-- open if it throws.
def leaked : Nat :=
  match attempt.convertName with
  | .error _ => if attempt.opens then 1 else 0
  | .ok _ => attempt.command.leaked impl

end ProcessAttempt

namespace WindowsAttempt

open LcuProcessHandler.Windows

variable (impl : LcuProcessHandlerImpl) (attempt : WindowsAttempt)

-- The process the scan stops at.
def stop : Option ProcessAttempt :=
  ((attempt.processes.getD []).take maxProcessCount).find? ProcessAttempt.stops

def result : Except Thrown (List Char) :=
  match attempt.processes with
  | none => .error (.rito (.lcuParameters "Unable to to enumerate processes with EnumProcesses"))
  | some _ =>
      match attempt.stop with
      | none => .error (.rito (.lcuParameters "Unable to find League Client process"))
      | some process => process.result impl

def leaked : Nat := (attempt.stop.map (ProcessAttempt.leaked impl)).getD 0

end WindowsAttempt

-- What is done with a handler.
inductive HandlerCall where
  | getLcuProcessParameters (attempt : WindowsAttempt)
  | destroy

namespace LcuProcessHandlerImpl

open Holding LcuProcessHandler

-- The function ends with this result, and with so many resources left beside
-- those that were open before.
def Comes {α : Type} (body : WindowsEffect α) (result : Except Thrown α)
    (before : Finset WindowsResource) (count : Nat) (impl : LcuProcessHandlerImpl)
    (held : Finset WindowsResource) : Prop :=
  body.Wp (fun value s after => result = .ok value ∧ Spends before count s after)
    (fun thrown s after => result = .error thrown ∧ Spends before count s after) impl held

theorem Comes.after {α : Type} {body : WindowsEffect α} {result : Except Thrown α}
    {impl s : LcuProcessHandlerImpl} {before held : Finset WindowsResource} {count : Nat}
    (h : Comes body result held count impl held) (hs : Spends before 0 s held) :
    Comes body result before count impl held := by
  refine wp_mono h ?_ ?_
  · rintro value last after ⟨he, hlater⟩
    exact ⟨he, Nat.zero_add count ▸ hs.trans hlater⟩
  · rintro thrown last after ⟨he, hlater⟩
    exact ⟨he, Nat.zero_add count ▸ hs.trans hlater⟩

theorem Comes.ends {α : Type} {body : WindowsEffect α} {result : Except Thrown α}
    {impl : LcuProcessHandlerImpl} {before held : Finset WindowsResource} {count : Nat}
    (h : Comes body result before count impl held) :
    (body impl).result = result ∧ ∃ after,
      (ledger WindowsResource).exec held (body impl).events = some (after, []) ∧
        Spends before count (body impl).state after := by
  obtain ⟨after, he, hends⟩ := h
  cases hresult : (body impl).result with
  | ok value =>
      rw [hresult] at hends
      exact ⟨hends.1.symm, after, he, hends.2⟩
  | error thrown =>
      rw [hresult] at hends
      exact ⟨hends.1.symm, after, he, hends.2⟩

-- What reading the command line has open.
structure Reads (processHandle : Option Nat) (held : Finset WindowsResource) (count : Nat)
    (impl : LcuProcessHandlerImpl) (after : Finset WindowsResource) : Prop where
  spends : Spends held count impl after
  dll : .ntDll ∈ after
  process : ∀ handle ∈ processHandle, .process handle ∈ after

variable {impl s : LcuProcessHandlerImpl} {held mid after : Finset WindowsResource}
  {processHandle : Option Nat} {count : Nat}

theorem Reads.allocate (hr : Reads processHandle held count impl after) :
    Reads processHandle held (count + 1) impl.next (insert (.buffer impl.made) after) where
  spends := hr.spends.open_next rfl
  dll := Finset.mem_insert_of_mem hr.dll
  process handle hm := Finset.mem_insert_of_mem (hr.process handle hm)

theorem comes_readCommandLine {attempt : CommandAttempt}
    (h₀ : Reads processHandle held 0 impl held) :
    Comes (readCommandLine processHandle attempt) attempt.read held attempt.buffers impl
      held := by
  have h₁ := h₀.allocate
  have h₂ := h₁.allocate
  have h₃ := h₂.allocate
  have h₄ := h₃.allocate
  have hmade : ∀ (s : LcuProcessHandlerImpl) (held : Finset WindowsResource),
      .buffer s.made ∈ insert (WindowsResource.buffer s.made) held :=
    fun s held => Finset.mem_insert_self _ held
  refine wp_bind (wp_allocate h₀.spends.keeps (fun hinfo => ?_) fun thrown he => ?_)
  · refine wp_bind (wp_use h₁.dll (wp_bind (wp_useHandle h₁.process (wp_bind
      (wp_use (hmade _ _) (wp_bind (wp_use (hmade _ _) ?_)))))))
    refine wp_bind (wp_allocate h₁.spends.keeps (fun hpeb => ?_) fun thrown he => ?_)
    · refine wp_bind (wp_readProcessMemory h₂.process (hmade _ _) (wp_bind
        (wp_use (hmade _ _) ?_)))
      refine wp_bind (wp_allocate h₂.spends.keeps (fun hparameters => ?_) fun thrown he => ?_)
      · refine wp_bind (wp_readProcessMemory h₃.process (hmade _ _) (wp_bind
          (wp_use (hmade _ _) ?_)))
        refine wp_bind (wp_allocate h₃.spends.keeps (fun hcommand => ?_) fun thrown he => ?_)
        · refine wp_bind (wp_readProcessMemory h₄.process (hmade _ _) (wp_bind
            (wp_lift (fun converted he => ?_) fun thrown he => ?_)))
          · -- the deletes, the last buffer first
            refine wp_bind (wp_close_insert (h₃.spends.keeps.fresh rfl) ?_)
            refine wp_bind (wp_close_insert (h₂.spends.keeps.fresh rfl) ?_)
            refine wp_bind (wp_close_insert (h₁.spends.keeps.fresh rfl) ?_)
            refine wp_bind (wp_close_insert (h₀.spends.keeps.fresh rfl) (wp_pure ⟨?_, ?_⟩))
            · rw [CommandAttempt.read, hinfo, hpeb, hparameters, hcommand, he]
              rfl
            · rw [CommandAttempt.buffers, hinfo, hpeb, hparameters, hcommand, he]
              exact h₀.spends.keeps.later.later.later.later.spends rfl
          · rw [CommandAttempt.read, CommandAttempt.buffers, hinfo, hpeb, hparameters, hcommand,
              he]
            exact ⟨rfl, h₄.spends⟩
        · rw [CommandAttempt.read, CommandAttempt.buffers, hinfo, hpeb, hparameters, he]
          exact ⟨rfl, h₃.spends⟩
      · rw [CommandAttempt.read, CommandAttempt.buffers, hinfo, hpeb, he]
        exact ⟨rfl, h₂.spends⟩
    · rw [CommandAttempt.read, CommandAttempt.buffers, hinfo, he]
      exact ⟨rfl, h₁.spends⟩
  · rw [CommandAttempt.read, CommandAttempt.buffers, he]
    exact ⟨rfl, h₀.spends⟩

theorem comes_extractProcessCommand {attempt : CommandAttempt} (hk : impl.Keeps held)
    (hp : ∀ handle ∈ processHandle, .process handle ∈ held) :
    Comes (extractProcessCommand processHandle attempt) (attempt.result impl) held
      (attempt.leaked impl) impl held := by
  refine wp_bind (wp_loadNtDll hk (fun loaded mid hs hdll hpointer hl => ?_) fun hl => ?_)
  · rw [CommandAttempt.result, CommandAttempt.leaked, if_pos hl, if_pos hl, ← hpointer]
    refine wp_bind (wp_retrieve hs.keeps hdll (fun found hf hq => ?_) fun hq => ?_)
    · have hreads : Reads processHandle mid 0 found mid :=
        ⟨hf.spends rfl, hdll, fun handle hm => hs.mem (by simp) (hp handle hm)⟩
      rw [if_pos hq, if_pos hq]
      exact (comes_readCommandLine hreads).after hs
    · rw [hq]
      exact ⟨rfl, hs⟩
  · rw [CommandAttempt.result, CommandAttempt.leaked, hl]
    exact ⟨rfl, hk.spends rfl⟩

theorem wp_extractProcessName {attempt : ProcessAttempt}
    {returns : List Char → LcuProcessHandlerImpl → Finset WindowsResource → Prop}
    {throws : Thrown → LcuProcessHandlerImpl → Finset WindowsResource → Prop}
    (ho : processHandle.isSome = attempt.opens)
    (hp : ∀ handle ∈ processHandle, .process handle ∈ held)
    (hr : attempt.convertName = .ok () → returns attempt.processName impl held)
    (ht : ∀ thrown, attempt.convertName = .error thrown → throws thrown impl held) :
    (extractProcessName processHandle attempt).Wp returns throws impl held := by
  have hconvert : (do lift attempt.convertName; return attempt.processName :
      WindowsEffect (List Char)).Wp returns throws impl held :=
    wp_bind (wp_lift (fun _ he => wp_pure (hr he)) ht)
  rw [ProcessAttempt.processName, ← ho] at hconvert
  refine wp_bind ?_
  cases processHandle with
  | none => exact wp_pure hconvert
  | some handle =>
      refine wp_bind (wp_use (hp handle rfl) ?_)
      by_cases hm : attempt.modules = true
      · rw [if_pos hm]
        rw [hm] at hconvert
        exact wp_bind (wp_use (hp handle rfl) (wp_pure hconvert))
      · rw [if_neg hm]
        rw [Bool.not_eq_true] at hm
        rw [hm] at hconvert
        exact wp_pure hconvert

theorem mem_withHandle {handle : Nat} (hm : handle ∈ processHandle) :
    .process handle ∈ withHandle processHandle held := by
  rw [Option.mem_def.mp hm]
  exact Finset.mem_insert_self _ held

theorem comes_findCommand (attempts : List ProcessAttempt) (hk : impl.Keeps held) :
    Comes (findCommand attempts)
      (match attempts.find? ProcessAttempt.stops with
        | none => .error (.rito (.lcuParameters "Unable to find League Client process"))
        | some attempt => attempt.result impl)
      held (((attempts.find? ProcessAttempt.stops).map (ProcessAttempt.leaked impl)).getD 0)
      impl held := by
  induction attempts generalizing impl held with
  | nil => exact wp_raise ⟨rfl, hk.spends rfl⟩
  | cons attempt rest ih =>
      by_cases hid : attempt.processId ≠ 0
      · rw [findCommand, if_pos hid]
        refine wp_bind (wp_openProcess hk fun processHandle made ho hfresh hopened => ?_)
        refine wp_bind (wp_extractProcessName ho (fun _ => mem_withHandle) (fun hname => ?_)
          fun thrown hname => ?_)
        · by_cases hn : attempt.processName = lcuExecutable
          · have hstops : attempt.stops = true := by simp [ProcessAttempt.stops, hid, hn]
            have hresult : attempt.result impl = attempt.command.result impl := by
              rw [ProcessAttempt.result, hname]
              rfl
            have hleaked : attempt.leaked impl = attempt.command.leaked impl := by
              rw [ProcessAttempt.leaked, hname]
            rw [if_pos hn, List.find?_cons_of_pos hstops, Option.map_some, Option.getD_some]
            simp only [hresult, hleaked]
            refine wp_bind (wp_onThrow (wp_mono
              (comes_extractProcessCommand hopened.keeps fun _ => mem_withHandle) ?_ ?_))
            · rintro value s after ⟨he, hs⟩
              exact wp_bind (wp_closeHandle hfresh hs fun closed hc => wp_pure ⟨he, hc⟩)
            · rintro thrown s after ⟨he, hs⟩
              exact wp_closeHandle hfresh hs fun closed hc => ⟨he, hc⟩
          · have hgoes : ¬attempt.stops = true := by
              simp [ProcessAttempt.stops, hname, hn, Except.isOk, Except.toBool]
            rw [if_neg hn, List.find?_cons_of_neg hgoes]
            refine wp_bind (wp_closeHandle hfresh (hopened.keeps.spends rfl) fun closed hc => ?_)
            exact (ih hc.keeps).after hc
        · have hstops : attempt.stops = true := by
            simp [ProcessAttempt.stops, hid, hname, Except.isOk, Except.toBool]
          have hresult : attempt.result impl = .error thrown := by
            rw [ProcessAttempt.result, hname]
            rfl
          have hleaked : attempt.leaked impl = if attempt.opens then 1 else 0 := by
            rw [ProcessAttempt.leaked, hname]
          rw [List.find?_cons_of_pos hstops, Option.map_some, Option.getD_some]
          refine ⟨hresult, ?_⟩
          rw [hleaked]
          exact hopened
      · have hgoes : ¬attempt.stops = true := by simp [ProcessAttempt.stops, not_not.mp hid]
        rw [findCommand, if_neg hid, List.find?_cons_of_neg hgoes]
        exact ih hk

theorem comes_getLcuProcessCommand (attempt : WindowsAttempt) (hk : impl.Keeps held) :
    Comes (getLcuProcessCommand attempt) (attempt.result impl) held (attempt.leaked impl) impl
      held := by
  unfold getLcuProcessCommand WindowsAttempt.leaked WindowsAttempt.result WindowsAttempt.stop
  cases attempt.processes with
  | none => exact wp_raise ⟨rfl, hk.spends rfl⟩
  | some processes => exact comes_findCommand _ hk

theorem comes_getLcuProcessParameters (attempt : WindowsAttempt) (hk : impl.Keeps held) :
    Comes (getLcuProcessParameters attempt) (attempt.result impl >>= parametersOf) held
      (attempt.leaked impl) impl held := by
  refine wp_bind (wp_mono (comes_getLcuProcessCommand attempt hk) ?_ ?_)
  · rintro lcuCommand s after ⟨he, hs⟩
    rw [he]
    exact wp_lift (fun _ hparameters => ⟨hparameters, hs⟩) fun _ hthrown => ⟨hthrown, hs⟩
  · rintro thrown s after ⟨he, hs⟩
    rw [he]
    exact ⟨rfl, hs⟩

-- The attempt at a process comes to what the system makes of it, and its name
-- can be converted.
structure Shows (system : WindowsSystem) (impl : LcuProcessHandlerImpl) (process : WindowsProcess)
    (attempt : ProcessAttempt) : Prop where
  processId : attempt.processId = process.processId
  opens : attempt.opens = process.opens
  modules : attempt.modules = process.modules
  moduleBaseName : attempt.moduleBaseName = process.moduleBaseName
  convertName : attempt.convertName = .ok ()
  command : ∀ result, Windows.extractProcessCommand system process = some result →
    attempt.command.result impl = result.mapError .rito

variable {system : WindowsSystem} {process : WindowsProcess} {processes : List WindowsProcess}
  {attempt : ProcessAttempt} {attempts : List ProcessAttempt}

theorem Shows.stops_iff (h : Shows system impl process attempt) : attempt.stops = true ↔
    process.processId ≠ 0 ∧ Windows.extractProcessName process = lcuExecutable := by
  have hname : attempt.processName = Windows.extractProcessName process := by
    rw [ProcessAttempt.processName, h.opens, h.modules, h.moduleBaseName,
      Windows.extractProcessName]
  simp [ProcessAttempt.stops, h.processId, h.convertName, hname, Except.isOk, Except.toBool]

theorem find_stops (h : List.Forall₂ (Shows system impl) processes attempts) :
    (Windows.findProcess processes = none ∧ attempts.find? ProcessAttempt.stops = none) ∨
      ∃ process attempt, Windows.findProcess processes = some process ∧
        attempts.find? ProcessAttempt.stops = some attempt ∧ Shows system impl process attempt := by
  induction h with
  | nil => exact Or.inl ⟨rfl, rfl⟩
  | @cons process attempt processes attempts hs _ ih =>
      rw [Windows.findProcess]
      by_cases hid : process.processId ≠ 0
      · by_cases hn : Windows.extractProcessName process = lcuExecutable
        · rw [if_pos hid, if_pos hn, List.find?_cons_of_pos (hs.stops_iff.mpr ⟨hid, hn⟩)]
          exact Or.inr ⟨process, attempt, rfl, rfl, hs⟩
        · rw [if_pos hid, if_neg hn, List.find?_cons_of_neg fun h => hn (hs.stops_iff.mp h).2]
          exact ih
      · rw [if_neg hid, List.find?_cons_of_neg fun h => hid (hs.stops_iff.mp h).1]
        exact ih

-- With its resources left out the call is that of the system.
theorem getLcuProcessCommand_result {result : Except Exception (List Char)}
    (hk : impl.Keeps held) (hp : system.processes = some processes)
    (ha : List.Forall₂ (Shows system impl) processes attempts)
    (h : Windows.getLcuProcessCommand system = some result) :
    (getLcuProcessCommand ⟨some attempts⟩ impl).result = result.mapError .rito := by
  rw [(comes_getLcuProcessCommand ⟨some attempts⟩ hk).ends.1]
  simp only [Windows.getLcuProcessCommand, hp] at h
  simp only [WindowsAttempt.result, WindowsAttempt.stop, Option.getD_some]
  rcases find_stops (List.forall₂_take Windows.maxProcessCount ha) with
    ⟨hnone, hstop⟩ | ⟨process, attempt, hfind, hstop, hs⟩
  · rw [hnone] at h
    rw [hstop, ← Option.some.inj h]
    rfl
  · rw [hfind] at h
    rw [hstop, ← hs.command result h]
    simp only [ProcessAttempt.result, hs.convertName]
    rfl

def machine : Machine (Option LcuProcessHandlerImpl) HandlerCall (HandleEvent WindowsResource) where
  step
    | some impl, .getLcuProcessParameters attempt =>
        let ending := getLcuProcessParameters attempt impl
        some (some ending.state, ending.events)
    | some impl, .destroy => some (none, (unloadNtDll impl).events)
    | none, _ => none

-- What a call on the handler leaves open for good.
def leaked : Option LcuProcessHandlerImpl → HandlerCall → Nat
  | some impl, .getLcuProcessParameters attempt => attempt.leaked impl
  | _, _ => 0

-- What is open beside a handler, or after one.
def Stands (handler : Option LcuProcessHandlerImpl) (held : Finset WindowsResource) : Prop :=
  match handler with
  | some impl => impl.Keeps held
  | none => .ntDll ∉ held

theorem step_stands {handler next : Option LcuProcessHandlerImpl} {call : HandlerCall}
    {events : List (HandleEvent WindowsResource)} (hh : Stands handler held)
    (h : machine.step handler call = some (next, events)) :
    ∃ after, (ledger WindowsResource).exec held events = some (after, []) ∧ Stands next after ∧
      (lost after).card = (lost held).card + leaked handler call := by
  cases handler with
  | none => cases h
  | some impl =>
      cases call with
      | getLcuProcessParameters attempt =>
          obtain ⟨rfl, rfl⟩ := Prod.mk.inj (Option.some.inj h)
          obtain ⟨-, after, he, hs⟩ := (comes_getLcuProcessParameters attempt hh).ends
          exact ⟨after, he, hs.keeps, hs.card⟩
      | destroy =>
          obtain ⟨rfl, rfl⟩ := Prod.mk.inj (Option.some.inj h)
          have hwp : unloadNtDll.Wp (fun _ _ after => after = lost held)
              (fun _ _ after => after = lost held) impl held := wp_unloadNtDll hh fun _ => rfl
          obtain ⟨after, he, hends⟩ := hwp
          have hlost : after = lost held := by
            cases hresult : (unloadNtDll impl).result with
            | ok value => simpa [hresult] using hends
            | error thrown => simpa [hresult] using hends
          subst hlost
          refine ⟨lost held, he, Finset.notMem_erase _ _, ?_⟩
          rw [lost, lost, Finset.erase_idem]
          rfl

-- The conversion of the command line throws in the first call, and not in the
-- second one, which finds the DLL and the function loaded.
def convertThrows : List HandlerCall :=
  let command : CommandAttempt := ⟨true, true, .ok (), .ok (), .ok (), .ok (), .error (.std "")⟩
  let attempt (command : CommandAttempt) : WindowsAttempt :=
    ⟨some [⟨0, false, false, [], .ok (), command⟩, ⟨4, true, false, [], .ok (), command⟩,
      ⟨8, true, true, LcuProcessHandler.lcuExecutable, .ok (), command⟩]⟩
  [.getLcuProcessParameters (attempt command),
    .getLcuProcessParameters (attempt { command with loadLibrary := false, convert := .ok [] }),
    .destroy]

end LcuProcessHandlerImpl

end Rito
