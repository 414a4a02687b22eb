import Mathlib.Algebra.Group.Int.Defs
import Rito.Exception
import Rito.Regex

namespace Rito

structure LcuParameters where
  remotingAuthToken : String
  appPort : UInt16
  deriving DecidableEq, Repr

namespace LcuProcessHandler

def tokenOption : List Char := "--remoting-auth-token=".toList

def portOption : List Char := "--app-port=".toList

-- [a-zA-Z0-9-_]
def isTokenChar (char : Char) : Bool := char.isAlphanum || char = '-' || char = '_'

-- An option, a run of value characters as the first group, and a character
-- that is none.
def optionRegex (option : List Char) (isValueChar : Char → Bool) : Regex Char :=
  .seq (.literal option) (.seq (.group (.plus isValueChar)) (.symbol fun char => !isValueChar char))

def tokenRegex : Regex Char := optionRegex tokenOption isTokenChar

def portRegex : Regex Char := optionRegex portOption Char.isDigit

-- std::regex_search, and the first group of what it finds.
def extract (regex : Regex Char) (what : String) (lcuCommand : List Char) :
    Except Exception (List Char) :=
  match regex.search lcuCommand with
  | some found => .ok (found.captures.headD [])
  | none => .error (.lcuParameters what)

def extractRemotingAuthToken (lcuCommand : List Char) : Except Exception (List Char) :=
  extract tokenRegex "Unable to extract remoting auth token from League Client launch command"
    lcuCommand

def extractAppPort (lcuCommand : List Char) : Except Exception (List Char) :=
  extract portRegex "Unable to extract app port from League Client launch command" lcuCommand

def isPositiveInteger (str : List Char) : Bool := !str.isEmpty && str.all Char.isDigit

-- std::isspace
def isSpace (char : Char) : Bool :=
  char = ' ' || char = '\t' || char = '\n' || char = '\x0b' || char = '\x0c' || char = '\r'

def digitsValue (digits : List Char) : Int :=
  digits.foldl (fun value digit => 10 * value + (digit.toNat - '0'.toNat : Nat)) 0

def readSign : List Char → Bool × List Char
  | '-' :: unsigned => (true, unsigned)
  | '+' :: unsigned => (false, unsigned)
  | unsigned => (false, unsigned)

-- std::stoi: both of its exceptions carry the text "stoi".
def stoi (str : List Char) : Except Thrown Int :=
  let (negative, unsigned) := readSign (str.dropWhile isSpace)
  let digits := unsigned.takeWhile Char.isDigit
  let value := if negative then -digitsValue digits else digitsValue digits
  if digits.isEmpty then .error (.std "stoi")
  else if -2 ^ 31 ≤ value ∧ value < 2 ^ 31 then .ok value
  else .error (.std "stoi")

-- get_lcu_process_parameters() from the return of get_lcu_process_command() on.
def parametersOf (lcuCommand : List Char) : Except Thrown LcuParameters :=
  match extractRemotingAuthToken lcuCommand with
  | .error exception => .error (.rito exception)
  | .ok remotingAuthToken =>
      match extractAppPort lcuCommand with
      | .error exception => .error (.rito exception)
      | .ok appPort =>
          (stoi appPort).map fun port =>
            { remotingAuthToken := String.ofList remotingAuthToken, appPort := UInt16.ofInt port }

def lcuExecutable : List Char := "LeagueClientUx.exe".toList

-- std::string::find, as a test.
def contains (text : List Char) : List Char → Bool
  | [] => text.isEmpty
  | char :: rest => text.isPrefixOf (char :: rest) || contains text rest

end LcuProcessHandler

-- An entry of the process directory: its name, and the content of its cmdline
-- file, which is empty if the file cannot be opened. If the stem of the name was
-- on the heap it is read after it was freed: `overwritten` is what its first
-- bytes have been overwritten with by then.
structure ProcEntry where
  name : List Char
  cmdline : List Char
  overwritten : List Char
  deriving DecidableEq, Repr

-- The directory as directory_iterator yields it: `entries`, and then its end or,
-- with `fails`, a filesystem_error.
structure ProcDirectory where
  path : String
  entries : List ProcEntry
  fails : Bool

namespace LcuProcessHandler.Linux

-- std::filesystem::path::stem of a file name.
def stem (name : List Char) : List Char :=
  match name.reverse.dropWhile (· ≠ '.') with
  | _ :: before => if before.isEmpty || name = ['.', '.'] then name else before.reverse
  | [] => name

-- The longest string that libstdc++ keeps inside the string object.
def localCapacity : Nat := 15

-- The view of dir.path().stem().c_str() is read when the stem is destroyed. It
-- shows a short stem all the same, of a long one what its memory has come to.
def procId (entry : ProcEntry) : List Char :=
  let view := stem entry.name
  if view.length ≤ localCapacity then view
  else entry.overwritten.take view.length ++ view.drop entry.overwritten.length

-- std::getline
def getline (content : List Char) : List Char := content.takeWhile (· ≠ '\n')

-- The loop of get_lcu_process_command().
def findCommand : List ProcEntry → Option (List Char)
  | [] => none
  | entry :: rest =>
      if isPositiveInteger (procId entry) then
        let command := getline entry.cmdline
        if contains lcuExecutable command then some command else findCommand rest
      else findCommand rest

def getLcuProcessCommand (procDir : ProcDirectory) : Except Exception (List Char) :=
  match findCommand procDir.entries with
  | some command => .ok command
  | none =>
      if procDir.fails then
        .error (.pathNotFound ("Unable to locate " ++ procDir.path ++ " folder"))
      else .error (.lcuNotRunning "Unable to find League Client process")

def getLcuProcessParameters (procDir : ProcDirectory) : Except Thrown LcuParameters :=
  match getLcuProcessCommand procDir with
  | .error exception => .error (.rito exception)
  | .ok lcuCommand => parametersOf lcuCommand

end LcuProcessHandler.Linux

-- A process as the Windows API shows it: whether OpenProcess and
-- EnumProcessModules succeed, what GetModuleBaseName gives, and the address
-- that is left in `command` when the memory of the process has been read.
structure WindowsProcess where
  processId : UInt32
  opens : Bool
  modules : Bool
  moduleBaseName : List Char
  command : Nat
  deriving DecidableEq, Repr

-- The processes EnumProcesses lists if it succeeds, whether Ntdll.dll and the
-- function in it are found, and the wide strings in the memory of the calling
-- process: `none` at an address whose read faults.
structure WindowsSystem where
  processes : Option (List WindowsProcess)
  ntDll : Bool
  queryInformation : Bool
  memory : Nat → Option (List Char)

namespace LcuProcessHandler.Windows

def maxProcessCount : Nat := 65536

def extractProcessName (process : WindowsProcess) : List Char :=
  if process.opens && process.modules then process.moduleBaseName else []

-- What is converted is `command`, the address in the other process, and not
-- `command_buffer`, the copy. The function is undefined where that read faults.
def extractProcessCommand (system : WindowsSystem) (process : WindowsProcess) :
    Option (Except Exception (List Char)) :=
  if !system.ntDll then
    some (.error (.lcuParameters "Unable to dynamically load Ntdll.dll"))
  else if !system.queryInformation then
    some (.error (.lcuParameters
      "Unable to retrieve NtQueryInformationProcess function pointer from Ntdll.dll"))
  else (system.memory process.command).map .ok

-- The loop of get_lcu_process_command().
def findProcess : List WindowsProcess → Option WindowsProcess
  | [] => none
  | process :: rest =>
      if process.processId ≠ 0 then
        if extractProcessName process = lcuExecutable then some process else findProcess rest
      else findProcess rest

def getLcuProcessCommand (system : WindowsSystem) : Option (Except Exception (List Char)) :=
  match system.processes with
  | none => some (.error (.lcuParameters "Unable to to enumerate processes with EnumProcesses"))
  | some processes =>
      match findProcess (processes.take maxProcessCount) with
      | some process => extractProcessCommand system process
      | none => some (.error (.lcuParameters "Unable to find League Client process"))

def getLcuProcessParameters (system : WindowsSystem) : Option (Except Thrown LcuParameters) :=
  match getLcuProcessCommand system with
  | none => none
  | some (.error exception) => some (.error (.rito exception))
  | some (.ok lcuCommand) => some (parametersOf lcuCommand)

end LcuProcessHandler.Windows

end Rito
