import Mathlib.Data.Finset.Card
import Rito.Holding
import Rito.LcuProcessHandler.Handles

namespace Rito

-- What the handler holds on to on Windows: Ntdll.dll, the handles of processes
-- and the buffers of extract_process_command(). Handles and buffers have the
-- number under which they are given out.
inductive WindowsResource where
  | ntDll
  | process (number : Nat)
  | buffer (number : Nat)
  deriving DecidableEq

def WindowsResource.number : WindowsResource → Option Nat
  | ntDll => none
  | process number | buffer number => some number

-- The two members, which the code compares with null. `made` counts the handles
-- and the buffers given out so far.
structure LcuProcessHandlerImpl where
  dllLib : Bool
  ntQueryInformationProcessPtr : Bool
  made : Nat
  deriving DecidableEq

-- What is decided outside extract_process_command(): what LoadLibrary and
-- GetProcAddress give, which of the allocations throw, and how the conversion
-- from UTF-16 ends.
structure CommandAttempt where
  loadLibrary : Bool
  getProcAddress : Bool
  processInfo : Except Thrown Unit
  pebBuffer : Except Thrown Unit
  processParametersBuffer : Except Thrown Unit
  commandBuffer : Except Thrown Unit
  convert : Except Thrown (List Char)

-- A process id of the list, whether OpenProcess gives a handle, how reading the
-- name ends, and how the conversion of the name does.
structure ProcessAttempt where
  processId : UInt32
  opens : Bool
  modules : Bool
  moduleBaseName : List Char
  convertName : Except Thrown Unit
  command : CommandAttempt

-- What EnumProcesses lists if it succeeds.
structure WindowsAttempt where
  processes : Option (List ProcessAttempt)

abbrev WindowsEffect := Holding LcuProcessHandlerImpl WindowsResource Thrown

namespace LcuProcessHandlerImpl

open Holding

def start : LcuProcessHandlerImpl := ⟨false, false, 0⟩

def next (impl : LcuProcessHandlerImpl) : LcuProcessHandlerImpl :=
  { impl with made := impl.made + 1 }

def use (resource : WindowsResource) : WindowsEffect Unit := emit (.used resource)

def loadNtDll (loadLibrary : Bool) : WindowsEffect Unit := do
  let impl ← get
  if impl.dllLib then return ()
  else if loadLibrary then do
    emit (.opened .ntDll)
    modify fun impl => { impl with dllLib := true }
  else raise (.rito (.lcuParameters "Unable to dynamically load Ntdll.dll"))

def retrieveNtQueryInformationProcessFunctionPointer (getProcAddress : Bool) :
    WindowsEffect Unit := do
  let impl ← get
  if impl.ntQueryInformationProcessPtr then return ()
  else do
    use .ntDll
    if getProcAddress then modify fun impl => { impl with ntQueryInformationProcessPtr := true }
    else raise (.rito (.lcuParameters
      "Unable to retrieve NtQueryInformationProcess function pointer from Ntdll.dll"))

def unloadNtDll : WindowsEffect Unit := do
  let impl ← get
  if impl.dllLib then do
    emit (.closed .ntDll)
    modify fun impl => { impl with dllLib := false, ntQueryInformationProcessPtr := false }
  else return ()

-- operator new: the buffer's number.
def allocate (allocated : Except Thrown Unit) : WindowsEffect Nat := do
  lift allocated
  let impl ← get
  emit (.opened (.buffer impl.made))
  modify next
  return impl.made

def delete (buffer : Nat) : WindowsEffect Unit := emit (.closed (.buffer buffer))

def openProcess (opens : Bool) : WindowsEffect (Option Nat) :=
  if opens then do
    let impl ← get
    emit (.opened (.process impl.made))
    modify next
    return some impl.made
  else return none

-- A call on a process handle, which may be null.
def useHandle : Option Nat → WindowsEffect Unit
  | none => return ()
  | some handle => use (.process handle)

def closeHandle : Option Nat → WindowsEffect Unit
  | none => return ()
  | some handle => emit (.closed (.process handle))

def readProcessMemory (processHandle : Option Nat) (buffer : Nat) : WindowsEffect Unit := do
  useHandle processHandle
  use (.buffer buffer)

-- extract_process_command() from its first allocation on. The statuses of the
-- calls are not looked at, and what is converted is not in one of the buffers.
def readCommandLine (processHandle : Option Nat) (attempt : CommandAttempt) :
    WindowsEffect (List Char) := do
  let processInfo ← allocate attempt.processInfo
  -- m_nt_query_information_process_ptr is called, and the PEB's address read
  use .ntDll
  useHandle processHandle
  use (.buffer processInfo)
  use (.buffer processInfo)
  let pebBuffer ← allocate attempt.pebBuffer
  readProcessMemory processHandle pebBuffer
  use (.buffer pebBuffer)
  let processParametersBuffer ← allocate attempt.processParametersBuffer
  readProcessMemory processHandle processParametersBuffer
  use (.buffer processParametersBuffer)
  let commandBuffer ← allocate attempt.commandBuffer
  readProcessMemory processHandle commandBuffer
  let converted ← lift attempt.convert
  delete commandBuffer
  delete processParametersBuffer
  delete pebBuffer
  delete processInfo
  return converted

def extractProcessCommand (processHandle : Option Nat) (attempt : CommandAttempt) :
    WindowsEffect (List Char) := do
  loadNtDll attempt.loadLibrary
  retrieveNtQueryInformationProcessFunctionPointer attempt.getProcAddress
  readCommandLine processHandle attempt

-- The name before its conversion.
def readProcessName (attempt : ProcessAttempt) : Option Nat → WindowsEffect (List Char)
  | none => return []
  | some handle => do
      use (.process handle)
      if attempt.modules then do
        use (.process handle)
        return attempt.moduleBaseName
      else return []

def extractProcessName (processHandle : Option Nat) (attempt : ProcessAttempt) :
    WindowsEffect (List Char) := do
  let processName ← readProcessName attempt processHandle
  lift attempt.convertName
  return processName

open LcuProcessHandler

-- The loop of get_lcu_process_command(), and the throw behind it.
def findCommand : List ProcessAttempt → WindowsEffect (List Char)
  | [] => raise (.rito (.lcuParameters "Unable to find League Client process"))
  | attempt :: rest =>
      if attempt.processId ≠ 0 then do
        let processHandle ← openProcess attempt.opens
        let processName ← extractProcessName processHandle attempt
        if processName = lcuExecutable then do
          let processCommand ← (extractProcessCommand processHandle attempt.command).onThrow
            (closeHandle processHandle)
          closeHandle processHandle
          return processCommand
        else do
          closeHandle processHandle
          findCommand rest
      else findCommand rest

def getLcuProcessCommand (attempt : WindowsAttempt) : WindowsEffect (List Char) :=
  match attempt.processes with
  | none => raise (.rito (.lcuParameters "Unable to to enumerate processes with EnumProcesses"))
  | some processes => findCommand (processes.take Windows.maxProcessCount)

def getLcuProcessParameters (attempt : WindowsAttempt) : WindowsEffect LcuParameters := do
  let lcuCommand ← getLcuProcessCommand attempt
  lift (parametersOf lcuCommand)

-- Every resource but the DLL, to which the handler has no pointer of its own.
def lost (held : Finset WindowsResource) : Finset WindowsResource := held.erase .ntDll

-- What is open as the handler has it: the DLL exactly if m_dll_lib is set, and
-- nothing under a number that is still to be given out.
structure Keeps (impl : LcuProcessHandlerImpl) (held : Finset WindowsResource) : Prop where
  dll : .ntDll ∈ held ↔ impl.dllLib = true
  pointer : impl.ntQueryInformationProcessPtr = true → impl.dllLib = true
  given : ∀ resource ∈ held, ∀ number ∈ resource.number, number < impl.made

-- So many resources are left beside those that were open before.
structure Spends (held : Finset WindowsResource) (count : Nat) (impl : LcuProcessHandlerImpl)
    (after : Finset WindowsResource) : Prop where
  keeps : impl.Keeps after
  kept : lost held ⊆ lost after
  card : (lost after).card = (lost held).card + count

variable {impl s : LcuProcessHandlerImpl} {held mid after : Finset WindowsResource}
  {resource : WindowsResource} {count more : Nat}

theorem lost_insert (hn : resource ≠ .ntDll) :
    lost (insert resource held) = insert resource (lost held) :=
  Finset.erase_insert_of_ne hn

theorem mem_lost (hn : resource ≠ .ntDll) : resource ∈ lost held ↔ resource ∈ held := by
  rw [lost, Finset.mem_erase]
  exact ⟨And.right, fun hm => ⟨hn, hm⟩⟩

theorem keeps_start : start.Keeps ∅ := by
  constructor <;> simp [start]

theorem ne_ntDll_of_number {number : Nat} (hn : resource.number = some number) :
    resource ≠ .ntDll := by
  rintro rfl
  cases hn

theorem Keeps.later (hk : impl.Keeps held) : impl.next.Keeps held where
  dll := hk.dll
  pointer := hk.pointer
  given resource hm number hn := Nat.lt_succ_of_lt (hk.given resource hm number hn)

theorem Keeps.fresh (hk : impl.Keeps held) (hn : resource.number = some impl.made) :
    resource ∉ held :=
  fun hm => (hk.given resource hm impl.made hn).false

-- The next number is given out.
theorem Keeps.open_next (hk : impl.Keeps held) (hn : resource.number = some impl.made) :
    impl.next.Keeps (insert resource held) where
  dll := by
    rw [Finset.mem_insert]
    exact (or_iff_right (ne_ntDll_of_number hn).symm).trans hk.dll
  pointer := hk.pointer
  given other hm number hother := by
    rcases Finset.mem_insert.mp hm with rfl | hm
    · rw [hn] at hother
      obtain rfl := Option.some.inj hother
      exact Nat.lt_succ_self impl.made
    · exact Nat.lt_succ_of_lt (hk.given other hm number hother)

-- The handler after LoadLibrary gave the DLL.
theorem Keeps.load (hk : impl.Keeps held) :
    { impl with dllLib := true : LcuProcessHandlerImpl }.Keeps (insert .ntDll held) where
  dll := by simp
  pointer _ := rfl
  given resource hm number hn := by
    rcases Finset.mem_insert.mp hm with rfl | hm
    · cases hn
    · exact hk.given resource hm number hn

theorem Keeps.close (hk : impl.Keeps held) (hn : resource ≠ .ntDll) :
    impl.Keeps (held.erase resource) where
  dll := by
    rw [← hk.dll, Finset.mem_erase]
    exact ⟨And.right, fun hm => ⟨hn.symm, hm⟩⟩
  pointer := hk.pointer
  given other hm number hother := hk.given other (Finset.mem_of_mem_erase hm) number hother

theorem Keeps.spends (hk : impl.Keeps after) (hl : lost after = lost held) :
    Spends held 0 impl after :=
  ⟨hk, hl ▸ Finset.Subset.refl _, hl ▸ rfl⟩

theorem Spends.mem (hs : Spends held count impl after) (hn : resource ≠ .ntDll)
    (hm : resource ∈ held) : resource ∈ after :=
  (mem_lost hn).mp (hs.kept ((mem_lost hn).mpr hm))

theorem Spends.trans (hs : Spends held count impl mid) (hm : Spends mid more s after) :
    Spends held (count + more) s after :=
  ⟨hm.keeps, hs.kept.trans hm.kept, by rw [hm.card, hs.card, Nat.add_assoc]⟩

theorem Spends.open_next (hs : Spends held count impl mid)
    (hn : resource.number = some impl.made) :
    Spends held (count + 1) impl.next (insert resource mid) := by
  have hne := ne_ntDll_of_number hn
  have hfresh : resource ∉ lost mid := fun hin => hs.keeps.fresh hn ((mem_lost hne).mp hin)
  refine ⟨hs.keeps.open_next hn, ?_, ?_⟩
  · rw [lost_insert hne]
    exact hs.kept.trans (Finset.subset_insert resource _)
  · rw [lost_insert hne, Finset.card_insert_of_notMem hfresh, hs.card, Nat.add_assoc]

-- What was opened before all that is left is closed.
theorem Spends.close_one (hs : Spends (insert resource held) count impl after)
    (hn : resource ≠ .ntDll) (hm : resource ∉ held) :
    Spends held count impl (after.erase resource) := by
  have hfresh : resource ∉ lost held := fun hin => hm ((mem_lost hn).mp hin)
  have hin : resource ∈ lost after :=
    (mem_lost hn).mpr (hs.mem hn (Finset.mem_insert_self resource held))
  have hkept := hs.kept
  have hcard := hs.card
  rw [lost_insert hn] at hkept hcard
  rw [Finset.card_insert_of_notMem hfresh] at hcard
  have hlost : lost (after.erase resource) = (lost after).erase resource :=
    Finset.erase_right_comm
  refine ⟨hs.keeps.close hn, ?_, ?_⟩
  · rw [hlost]
    exact Finset.subset_erase.mpr ⟨(Finset.subset_insert resource _).trans hkept, hfresh⟩
  · rw [hlost, Finset.card_erase_of_mem hin, hcard]
    omega

variable {returns : Unit → LcuProcessHandlerImpl → Finset WindowsResource → Prop}
  {throws : Thrown → LcuProcessHandlerImpl → Finset WindowsResource → Prop}

theorem wp_loadNtDll {loadLibrary : Bool} (hk : impl.Keeps held)
    (hr : ∀ s after, Spends held 0 s after → .ntDll ∈ after →
      s.ntQueryInformationProcessPtr = impl.ntQueryInformationProcessPtr →
      (impl.dllLib || loadLibrary) = true → returns () s after)
    (ht : (impl.dllLib || loadLibrary) = false →
      throws (.rito (.lcuParameters "Unable to dynamically load Ntdll.dll")) impl held) :
    (loadNtDll loadLibrary).Wp returns throws impl held := by
  refine wp_bind (wp_get ?_)
  by_cases hd : impl.dllLib = true
  · rw [if_pos hd]
    exact wp_pure (hr impl held (hk.spends rfl) (hk.dll.mpr hd) rfl (by simp [hd]))
  · rw [if_neg hd]
    by_cases hl : loadLibrary = true
    · rw [if_pos hl]
      have hclosed : .ntDll ∉ held := fun hm => hd (hk.dll.mp hm)
      refine wp_bind (wp_open hclosed (wp_modify ?_))
      refine hr _ _ (hk.load.spends ?_) (Finset.mem_insert_self _ _) rfl (by simp [hl])
      exact Finset.erase_insert_eq_erase held .ntDll
    · rw [if_neg hl]
      exact wp_raise (ht (by simp [hd, hl]))

theorem wp_retrieve {getProcAddress : Bool} (hk : impl.Keeps held) (hd : .ntDll ∈ held)
    (hr : ∀ s, s.Keeps held →
      (impl.ntQueryInformationProcessPtr || getProcAddress) = true → returns () s held)
    (ht : (impl.ntQueryInformationProcessPtr || getProcAddress) = false →
      throws (.rito (.lcuParameters
        "Unable to retrieve NtQueryInformationProcess function pointer from Ntdll.dll"))
        impl held) :
    (retrieveNtQueryInformationProcessFunctionPointer getProcAddress).Wp
      returns throws impl held := by
  refine wp_bind (wp_get ?_)
  by_cases hp : impl.ntQueryInformationProcessPtr = true
  · rw [if_pos hp]
    exact wp_pure (hr impl hk (by simp [hp]))
  · rw [if_neg hp]
    refine wp_bind (wp_use hd ?_)
    by_cases hg : getProcAddress = true
    · rw [if_pos hg]
      refine wp_modify (hr _ ?_ (by simp [hg]))
      exact ⟨hk.dll, fun _ => hk.dll.mp hd, hk.given⟩
    · rw [if_neg hg]
      exact wp_raise (ht (by simp [hp, hg]))

theorem wp_unloadNtDll (hk : impl.Keeps held)
    (hr : ∀ s, returns () s (lost held)) : unloadNtDll.Wp returns throws impl held := by
  refine wp_bind (wp_get ?_)
  by_cases hd : impl.dllLib = true
  · rw [if_pos hd]
    exact wp_bind (wp_close (hk.dll.mpr hd) (wp_modify (hr _)))
  · rw [if_neg hd]
    have hclosed : .ntDll ∉ held := fun hm => hd (hk.dll.mp hm)
    refine wp_pure ?_
    have hr' := hr impl
    rw [lost, Finset.erase_eq_of_notMem hclosed] at hr'
    exact hr'

theorem wp_allocate {allocated : Except Thrown Unit}
    {returns : Nat → LcuProcessHandlerImpl → Finset WindowsResource → Prop} (hk : impl.Keeps held)
    (hr : allocated = .ok () → returns impl.made impl.next (insert (.buffer impl.made) held))
    (ht : ∀ thrown, allocated = .error thrown → throws thrown impl held) :
    (allocate allocated).Wp returns throws impl held := by
  refine wp_bind (wp_lift (fun _ he => ?_) ht)
  refine wp_bind (wp_get (wp_bind (wp_open (hk.fresh rfl) (wp_bind (wp_modify (wp_pure ?_))))))
  exact hr he

-- OpenProcess: a handle that is not null is open.
def withHandle : Option Nat → Finset WindowsResource → Finset WindowsResource
  | none, held => held
  | some handle, held => insert (.process handle) held

theorem wp_openProcess {opens : Bool}
    {returns : Option Nat → LcuProcessHandlerImpl → Finset WindowsResource → Prop}
    (hk : impl.Keeps held)
    (hr : ∀ processHandle made, processHandle.isSome = opens →
      (∀ handle ∈ processHandle, .process handle ∉ held) →
      Spends held (if opens then 1 else 0) { impl with made := made }
        (withHandle processHandle held) →
      returns processHandle { impl with made := made } (withHandle processHandle held)) :
    (openProcess opens).Wp returns throws impl held := by
  unfold openProcess
  cases opens with
  | false =>
      rw [if_neg (by decide)]
      exact wp_pure (hr none impl.made rfl (by simp) (hk.spends rfl))
  | true =>
      rw [if_pos rfl]
      refine wp_bind (wp_get (wp_bind (wp_open (hk.fresh rfl) (wp_bind (wp_modify
        (wp_pure ?_))))))
      refine hr (some impl.made) (impl.made + 1) rfl (fun handle hm => ?_)
        ((hk.spends rfl).open_next rfl)
      obtain rfl := Option.some.inj hm
      exact hk.fresh rfl

variable {processHandle : Option Nat}

theorem wp_useHandle (hp : ∀ handle ∈ processHandle, .process handle ∈ held)
    (hr : returns () impl held) : (useHandle processHandle).Wp returns throws impl held := by
  cases processHandle with
  | none => exact wp_pure hr
  | some handle => exact wp_use (hp handle rfl) hr

theorem wp_closeHandle (hp : ∀ handle ∈ processHandle, .process handle ∉ held)
    (hs : Spends (withHandle processHandle held) count impl after)
    (hr : ∀ closed, Spends held count impl closed → returns () impl closed) :
    (closeHandle processHandle).Wp returns throws impl after := by
  cases processHandle with
  | none => exact wp_pure (hr after hs)
  | some handle =>
      have hn : WindowsResource.process handle ≠ .ntDll := by simp
      refine wp_close (hs.mem hn (Finset.mem_insert_self _ held)) (hr _ ?_)
      exact hs.close_one hn (hp handle rfl)

theorem wp_readProcessMemory {buffer : Nat}
    (hp : ∀ handle ∈ processHandle, .process handle ∈ held) (hb : .buffer buffer ∈ held)
    (hr : returns () impl held) :
    (readProcessMemory processHandle buffer).Wp returns throws impl held :=
  wp_bind (wp_useHandle hp (wp_use hb hr))

end LcuProcessHandlerImpl

end Rito
