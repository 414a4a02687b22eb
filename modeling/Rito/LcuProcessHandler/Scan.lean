import Rito.LcuProcessHandler.Parameters

namespace Rito

namespace LcuProcessHandler

-- The command line has a token and a port of that value.
def Yields (command token : List Char) (port : Nat) : Prop :=
  extractRemotingAuthToken command = .ok token ∧
    ∃ digits, extractAppPort command = .ok digits ∧ decimalValue digits = port

variable {command token : List Char} {port : Nat} {parameters : LcuParameters}

theorem parametersOf_yields (h : Yields command token port) :
    parametersOf command =
      if port < 2 ^ 31 then
        .ok { remotingAuthToken := String.ofList token, appPort := UInt16.ofNat port }
      else .error (.std "stoi") := by
  obtain ⟨ht, digits, hp, rfl⟩ := h
  exact parametersOf_eq ht hp

theorem parametersOf_eq_ok (h : parametersOf command = .ok parameters) :
    ∃ token port, Yields command token port ∧ port < 2 ^ 31 ∧
      parameters = { remotingAuthToken := String.ofList token, appPort := UInt16.ofNat port } := by
  cases ht : extractRemotingAuthToken command with
  | error exception => simp [parametersOf, ht] at h
  | ok token =>
      cases hp : extractAppPort command with
      | error exception => simp [parametersOf, ht, hp] at h
      | ok digits =>
          have hy : Yields command token (decimalValue digits) := ⟨ht, digits, hp, rfl⟩
          rw [parametersOf_yields hy] at h
          split at h
          · next hlt => exact ⟨token, _, hy, hlt, (Except.ok.inj h).symm⟩
          · cases h

-- A command line without a token or without a port is one whose parameters
-- cannot be extracted.
theorem parametersOf_lcuParameters_iff :
    (∃ what, parametersOf command = .error (.rito (.lcuParameters what))) ↔
      ∀ token port, ¬Yields command token port := by
  constructor
  · rintro ⟨what, he⟩ token port hy
    rw [parametersOf_yields hy] at he
    split at he <;> cases he
  · intro h
    cases ht : extractRemotingAuthToken command with
    | error exception =>
        obtain ⟨rfl, -⟩ := extract_eq_error ht
        exact ⟨"Unable to extract remoting auth token from League Client launch command", by
          simp only [parametersOf, ht]⟩
    | ok token =>
        cases hp : extractAppPort command with
        | error exception =>
            obtain ⟨rfl, -⟩ := extract_eq_error hp
            exact ⟨"Unable to extract app port from League Client launch command", by
              simp only [parametersOf, ht, hp]⟩
        | ok digits => exact absurd ⟨ht, digits, hp, rfl⟩ (h token _)

theorem Yields.unique {other : List Char} {port' : Nat} (h : Yields command token port)
    (h' : Yields command other port') : token = other ∧ port = port' := by
  obtain ⟨ht, digits, hp, rfl⟩ := h
  obtain ⟨ht', digits', hp', rfl⟩ := h'
  rw [ht] at ht'
  rw [hp] at hp'
  exact ⟨Except.ok.inj ht', congrArg decimalValue (Except.ok.inj hp')⟩

-- The three ways get_lcu_process_parameters() can end on a command line.
theorem parametersOf_cases (command : List Char) :
    (∃ token port, Yields command token port ∧ port < 2 ^ 31 ∧ parametersOf command =
        .ok { remotingAuthToken := String.ofList token, appPort := UInt16.ofNat port }) ∨
      (∃ token port, Yields command token port ∧ ¬port < 2 ^ 31 ∧
        parametersOf command = .error (.std "stoi")) ∨
      (∀ token port, ¬Yields command token port) ∧
        ∃ what, parametersOf command = .error (.rito (.lcuParameters what)) := by
  by_cases hy : ∃ token port, Yields command token port
  · obtain ⟨token, port, hy⟩ := hy
    by_cases hp : port < 2 ^ 31
    · exact Or.inl ⟨token, port, hy, hp, by rw [parametersOf_yields hy, if_pos hp]⟩
    · exact Or.inr (Or.inl ⟨token, port, hy, hp, by rw [parametersOf_yields hy, if_neg hp]⟩)
  · simp only [not_exists] at hy
    exact Or.inr (Or.inr ⟨hy, parametersOf_lcuParameters_iff.mpr hy⟩)

theorem contains_append {text start : List Char} (h : contains text start = true)
    (more : List Char) : contains text (start ++ more) = true := by
  induction start with
  | nil =>
      obtain rfl : text = [] := List.isEmpty_iff.mp h
      cases more <;> rfl
  | cons char rest ih =>
      simp only [contains, Bool.or_eq_true] at h
      simp only [List.cons_append, contains, Bool.or_eq_true]
      refine h.imp (fun hp => ?_) ih
      rw [List.isPrefixOf_iff_prefix] at hp ⊢
      exact hp.trans (List.prefix_append (char :: rest) more)

theorem getline_append (cmdline : List Char) :
    cmdline = Linux.getline cmdline ++ cmdline.dropWhile (· ≠ '\n') :=
  List.takeWhile_append_dropWhile.symm

-- A name of digits alone has no extension.
theorem stem_of_isPositiveInteger {name : List Char} (h : isPositiveInteger name = true) :
    Linux.stem name = name := by
  have hdigits : name.all Char.isDigit = true := by
    simp only [isPositiveInteger, Bool.and_eq_true] at h
    exact h.2
  have hdot : name.reverse.dropWhile (· ≠ '.') = [] := by
    rw [List.dropWhile_eq_nil_iff]
    intro digit hm
    have hd := List.all_eq_true.mp hdigits digit (List.mem_reverse.mp hm)
    rw [decide_eq_true_eq]
    rintro rfl
    exact absurd hd (by decide)
  unfold Linux.stem
  rw [hdot]

theorem procId_of_length {entry : ProcEntry}
    (h : (Linux.stem entry.name).length ≤ Linux.localCapacity) :
    Linux.procId entry = Linux.stem entry.name := if_pos h

-- What the first line of a command line yields, the whole of it does.
theorem Yields.of_getline {cmdline : List Char} (h : Yields (Linux.getline cmdline) token port) :
    Yields cmdline token port := by
  obtain ⟨ht, digits, hp, hv⟩ := h
  rw [getline_append cmdline]
  exact ⟨extract_append ht _, digits, extract_append hp _, hv⟩

end LcuProcessHandler

-- An entry that passes for a process by the name that is read, and whose command
-- line names the client's executable, as far as getline() reads it.
def ProcEntry.Mentions (entry : ProcEntry) : Prop :=
  LcuProcessHandler.isPositiveInteger (LcuProcessHandler.Linux.procId entry) = true ∧
    LcuProcessHandler.contains LcuProcessHandler.lcuExecutable
      (LcuProcessHandler.Linux.getline entry.cmdline) = true

instance (entry : ProcEntry) : Decidable entry.Mentions := inferInstanceAs (Decidable (_ ∧ _))

namespace ProcDirectory

open LcuProcessHandler LcuProcessHandler.Linux

-- The client runs with this token and this port, as one of the processes.
def Runs (procDir : ProcDirectory) (token : List Char) (port : Nat) : Prop :=
  ∃ entry ∈ procDir.entries, isPositiveInteger (stem entry.name) = true ∧
    contains lcuExecutable entry.cmdline = true ∧ Yields entry.cmdline token port

-- The token and the port of a running client are returned.
def Found (procDir : ProcDirectory) : Prop :=
  ∃ token port, procDir.Runs token port ∧
    ∃ parameters, getLcuProcessParameters procDir = .ok parameters ∧
      parameters.remotingAuthToken = String.ofList token ∧ parameters.appPort.toNat = port

-- The first entry in the listing that passes for a process and mentions the
-- executable has a token and a port on its first line. It is a process and the
-- port fits 16 bits, or the port fits an int and a client runs with that token
-- on its remainder.
def FirstUsable (procDir : ProcDirectory) : Prop :=
  ∃ entry ∈ procDir.entries.find? (·.Mentions), ∃ token port,
    Yields (getline entry.cmdline) token port ∧
      (isPositiveInteger (stem entry.name) = true ∧ port < 2 ^ 16 ∨
        port < 2 ^ 31 ∧ procDir.Runs token (port % 2 ^ 16))

theorem findCommand_eq (entries : List ProcEntry) :
    findCommand entries = (entries.find? (·.Mentions)).map fun entry => getline entry.cmdline := by
  induction entries with
  | nil => rfl
  | cons entry rest ih =>
      by_cases hm : entry.Mentions
      · simp [findCommand, hm.1, hm.2, List.find?_cons_of_pos, hm]
      · rw [List.find?_cons_of_neg (by simpa using hm), ← ih]
        simp only [findCommand]
        split
        · next hname =>
            rw [if_neg fun hin => hm ⟨hname, hin⟩]
        · rfl

variable {procDir : ProcDirectory} {entry : ProcEntry} {token : List Char} {port : Nat}

theorem getLcuProcessParameters_eq :
    getLcuProcessParameters procDir =
      match procDir.entries.find? (·.Mentions) with
      | some entry => parametersOf (getline entry.cmdline)
      | none =>
          if procDir.fails then
            .error (.rito (.pathNotFound ("Unable to locate " ++ procDir.path ++ " folder")))
          else .error (.rito (.lcuNotRunning "Unable to find League Client process")) := by
  unfold getLcuProcessParameters getLcuProcessCommand
  rewrite [findCommand_eq]
  cases procDir.entries.find? (·.Mentions) with
  | some entry => rfl
  | none => cases procDir.fails <;> rfl

theorem runs_of_first (hf : procDir.entries.find? (·.Mentions) = some entry)
    (hname : isPositiveInteger (stem entry.name) = true)
    (hy : Yields (getline entry.cmdline) token port) : procDir.Runs token port := by
  have hm : entry.Mentions := by simpa using List.find?_some hf
  refine ⟨entry, List.mem_of_find?_eq_some hf, hname, ?_, hy.of_getline⟩
  rw [getline_append entry.cmdline]
  exact contains_append hm.2 _

theorem found_iff : procDir.Found ↔ procDir.FirstUsable := by
  constructor
  · rintro ⟨token, _, hruns, parameters, hget, htoken, rfl⟩
    rw [getLcuProcessParameters_eq] at hget
    split at hget
    · next entry hf =>
        obtain ⟨token', port, hy, hlt, rfl⟩ := parametersOf_eq_ok hget
        obtain rfl : token' = token := String.ofList_injective htoken
        exact ⟨entry, hf, token', port, hy, Or.inr ⟨hlt, by simpa using hruns⟩⟩
    · split at hget <;> cases hget
  · rintro ⟨entry, hf, token, port, hy, hport⟩
    rw [Option.mem_def] at hf
    have hlt : port < 2 ^ 31 := by
      rcases hport with ⟨-, h⟩ | h
      · omega
      · exact h.1
    have hruns : procDir.Runs token (port % 2 ^ 16) := by
      rcases hport with ⟨hname, h⟩ | h
      · rw [Nat.mod_eq_of_lt h]
        exact runs_of_first hf hname hy
      · exact h.2
    have hget : getLcuProcessParameters procDir =
        .ok { remotingAuthToken := String.ofList token, appPort := UInt16.ofNat port } := by
      rw [getLcuProcessParameters_eq, hf]
      simp only [parametersOf_yields hy, if_pos hlt]
    exact ⟨token, port % 2 ^ 16, hruns, _, hget, rfl, UInt16.toNat_ofNat'⟩

-- A running client is found if and only if none runs, or the first process
-- that mentions the executable is usable.
theorem running_client_found_iff (procDir : ProcDirectory) :
    ((∃ token port, procDir.Runs token port) → procDir.Found) ↔
      ((∃ token port, procDir.Runs token port) → procDir.FirstUsable) := by
  rw [found_iff]

-- A client whose name is too long for the string object. Its memory has come to
-- begin with a blank.
example :
    let entry : ProcEntry := ⟨"1234567890123456".toList, clientOnPort "12345", [' ']⟩
    getLcuProcessParameters { path := "/proc", entries := [entry], fails := false } =
      .error (.rito (.lcuNotRunning "Unable to find League Client process")) := by
  decide

-- An editor has a log file of the client open.
def editorFirst : ProcDirectory where
  path := "/proc"
  entries := [⟨"100".toList, "vim LeagueClientUx.exe.log".toList, []⟩,
    ⟨"124".toList, clientOnPort "12345", []⟩]
  fails := false

theorem editorFirst_missed :
    (∃ token port, editorFirst.Runs token port) ∧ ∃ what,
      getLcuProcessParameters editorFirst = .error (.rito (.lcuParameters what)) := by
  have hruns : editorFirst.Runs "MyExampleAuthToken".toList 12345 :=
    ⟨⟨"124".toList, clientOnPort "12345", []⟩, by decide, by decide, by decide, by decide,
      "12345".toList, by decide, by decide⟩
  have hfirst : editorFirst.entries.find? (·.Mentions) =
      some ⟨"100".toList, "vim LeagueClientUx.exe.log".toList, []⟩ :=
    List.find?_cons_of_pos (by decide)
  have hnone : ∀ token port, ¬Yields (getline "vim LeagueClientUx.exe.log".toList) token port := by
    intro token port hy
    have hok : (extractRemotingAuthToken (getline "vim LeagueClientUx.exe.log".toList)).isOk =
        false := by decide
    rw [hy.1] at hok
    cases hok
  obtain ⟨what, hwhat⟩ := parametersOf_lcuParameters_iff.mpr hnone
  refine ⟨⟨_, _, hruns⟩, what, ?_⟩
  rw [getLcuProcessParameters_eq, hfirst]
  exact hwhat

end ProcDirectory

end Rito
