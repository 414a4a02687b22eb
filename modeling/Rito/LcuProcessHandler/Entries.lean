import Rito.LcuProcessHandler.Scan

namespace Rito

-- A process entry that names the client's executable on its first line.
def ProcEntry.IsClient (entry : ProcEntry) : Prop :=
  LcuProcessHandler.isPositiveInteger entry.name = true ∧
    LcuProcessHandler.contains LcuProcessHandler.lcuExecutable
      (LcuProcessHandler.Linux.getline entry.cmdline) = true

instance (entry : ProcEntry) : Decidable entry.IsClient := inferInstanceAs (Decidable (_ ∧ _))

-- Such an entry that the scan takes for a process.
def ProcEntry.IsSeen (entry : ProcEntry) : Prop := entry.IsClient ∧ entry.Mentions

instance (entry : ProcEntry) : Decidable entry.IsSeen := inferInstanceAs (Decidable (_ ∧ _))

namespace ProcDirectory

open LcuProcessHandler LcuProcessHandler.Linux

variable {path : String} {entries : List ProcEntry} {entry : ProcEntry}
  {keep : ProcEntry → Bool}

-- The first line of the first client, or the documented exception.
def ReturnsFirstClient (entries : List ProcEntry) (result : Except Exception (List Char)) : Prop :=
  (∀ client ∈ entries.find? (·.IsClient), result = .ok (getline client.cmdline)) ∧
    (entries.find? (·.IsClient) = none → ∃ what, result = .error (.lcuNotRunning what))

-- The listing without those entries that are no process and not in `keep`.
def keeping (keep : ProcEntry → Bool) (entries : List ProcEntry) : List ProcEntry :=
  entries.filter fun entry => isPositiveInteger entry.name || keep entry

-- The scan finds the first client, whichever other entries are there.
def SeesProcessesOnly (path : String) (entries : List ProcEntry) : Prop :=
  ∀ keep, ReturnsFirstClient entries
    (getLcuProcessCommand { path := path, entries := keeping keep entries, fails := false })

-- If there is a client, the scan sees one, and the first it sees has the first
-- line of the first client. So has each entry before that one that passes for a
-- process and mentions the executable.
structure PassersAgree (entries : List ProcEntry) : Prop where
  seen : ∀ client ∈ entries.find? (·.IsClient), ∃ seen ∈ entries.find? (·.IsSeen),
    getline seen.cmdline = getline client.cmdline
  passers : ∀ entry ∈ entries.takeWhile (¬·.IsSeen), entry.Mentions →
    ∃ client ∈ entries.find? (·.IsClient), getline client.cmdline = getline entry.cmdline

theorem getLcuProcessCommand_eq (path : String) (entries : List ProcEntry) :
    getLcuProcessCommand { path := path, entries := entries, fails := false } =
      match entries.find? (·.Mentions) with
      | some entry => .ok (getline entry.cmdline)
      | none => .error (.lcuNotRunning "Unable to find League Client process") := by
  unfold getLcuProcessCommand
  rewrite [findCommand_eq]
  cases entries.find? (·.Mentions) <;> rfl

-- Of the entries before the first client seen none that mentions it is a process.
theorem not_process_of_passes (hm : entry ∈ entries.takeWhile (¬·.IsSeen))
    (hp : entry.Mentions) : isPositiveInteger entry.name = false := by
  by_contra hname
  have hno : ¬entry.IsSeen := by
    have hall := List.all_eq_true.mp List.all_takeWhile entry hm
    simpa using hall
  exact hno ⟨⟨by simpa using hname, hp.2⟩, hp⟩

-- What stands before the first client seen, and what from it on.
theorem first_seen_cases (entries : List ProcEntry) :
    (entries.find? (·.IsSeen) = none ∧ entries.takeWhile (¬·.IsSeen) = entries) ∨
      ∃ seen rest, entries.find? (·.IsSeen) = some seen ∧ seen.IsSeen ∧
        entries = entries.takeWhile (¬·.IsSeen) ++ seen :: rest := by
  induction entries with
  | nil => exact Or.inl ⟨rfl, rfl⟩
  | cons entry entries ih =>
      by_cases hs : entry.IsSeen
      · refine Or.inr ⟨entry, entries, ?_, hs, ?_⟩
        · exact List.find?_cons_of_pos (by simpa using hs)
        · rw [List.takeWhile_cons_of_neg (by simpa using hs), List.nil_append]
      · rw [List.find?_cons_of_neg (by simpa using hs),
          List.takeWhile_cons_of_pos (by simpa using hs)]
        rcases ih with ⟨hnone, hall⟩ | ⟨seen, rest, hfind, hseen, hsplit⟩
        · exact Or.inl ⟨hnone, by rw [hall]⟩
        · refine Or.inr ⟨seen, rest, hfind, hseen, ?_⟩
          rw [List.cons_append, ← hsplit]

-- What the scan of a kept listing finds first.
theorem find?_keeping_cases (keep : ProcEntry → Bool) (entries : List ProcEntry) :
    ((keeping keep entries).find? (·.Mentions) = none ∧ entries.find? (·.IsSeen) = none) ∨
      (∃ entry ∈ entries.takeWhile (¬·.IsSeen), entry.Mentions ∧
        (keeping keep entries).find? (·.Mentions) = some entry) ∨
      ∃ seen ∈ entries.find? (·.IsSeen),
        (keeping keep entries).find? (·.Mentions) = some seen := by
  simp only [keeping, List.find?_filter]
  generalize hpass : (fun entry : ProcEntry => decide
    ((isPositiveInteger entry.name || keep entry) = true ∧ decide entry.Mentions = true)) = pass
  have hmentions : ∀ entry, pass entry = true → entry.Mentions := by
    intro entry hp
    rw [← hpass] at hp
    simp only [decide_eq_true_eq] at hp
    exact hp.2
  have hseen : ∀ entry : ProcEntry, entry.IsSeen → pass entry = true := by
    intro entry hs
    rw [← hpass]
    simp [hs.1.1, hs.2]
  rcases first_seen_cases entries with ⟨hnone, hall⟩ | ⟨seen, rest, hfind, hs, hsplit⟩
  · cases hfirst : entries.find? pass with
    | none => exact Or.inl ⟨rfl, hnone⟩
    | some entry =>
        refine Or.inr (Or.inl ⟨entry, ?_, hmentions entry (List.find?_some hfirst), rfl⟩)
        rw [hall]
        exact List.mem_of_find?_eq_some hfirst
  · rw [hfind]
    cases hfirst : (entries.takeWhile (¬·.IsSeen)).find? pass with
    | some entry =>
        refine Or.inr (Or.inl ⟨entry, List.mem_of_find?_eq_some hfirst,
          hmentions entry (List.find?_some hfirst), ?_⟩)
        rw [hsplit, List.find?_append, hfirst, Option.some_or]
    | none =>
        refine Or.inr (Or.inr ⟨seen, rfl, ?_⟩)
        rw [hsplit, List.find?_append, hfirst, Option.none_or,
          List.find?_cons_of_pos (hseen seen hs)]

-- With one entry kept that passes for a process, the scan finds it.
theorem find?_keeping_one (hm : entry ∈ entries.takeWhile (¬·.IsSeen)) (hp : entry.Mentions) :
    (keeping (· = entry) entries).find? (·.Mentions) = some entry := by
  simp only [keeping, List.find?_filter]
  generalize hpass : (fun other : ProcEntry => decide
    ((isPositiveInteger other.name || decide (other = entry)) = true ∧
      decide other.Mentions = true)) = pass
  have hentry : pass entry = true := by
    rw [← hpass]
    simp [hp]
  have hsome : ((entries.takeWhile (¬·.IsSeen)).find? pass).isSome = true :=
    List.find?_isSome.mpr ⟨entry, hm, hentry⟩
  obtain ⟨first, hfirst⟩ := Option.isSome_iff_exists.mp hsome
  have heq : first = entry := by
    have hfound := List.find?_some hfirst
    rw [← hpass] at hfound
    simp only [decide_eq_true_eq] at hfound
    have hname := not_process_of_passes (List.mem_of_find?_eq_some hfirst) hfound.2
    simpa [hname] using hfound.1
  have hsplit := List.takeWhile_append_dropWhile (p := (¬·.IsSeen)) (l := entries)
  rw [← hsplit, List.find?_append, hfirst, Option.some_or, heq]

theorem returnsFirstClient {client : ProcEntry} {line : List Char}
    (hfind : client ∈ entries.find? (·.IsClient)) (hline : getline client.cmdline = line) :
    ReturnsFirstClient entries (.ok line) := by
  rw [Option.mem_def] at hfind
  constructor
  · intro other hother
    rw [Option.mem_def, hfind] at hother
    rw [← Option.some.inj hother, hline]
  · intro hnone
    rw [hfind] at hnone
    cases hnone

-- Only process entries decide the result, if and only if the clients that are
-- not seen and the other entries that pass for a process change nothing in it.
theorem sees_processes_only_iff (path : String) (entries : List ProcEntry) :
    SeesProcessesOnly path entries ↔ PassersAgree entries := by
  constructor
  · intro h
    refine ⟨fun client hclient => ?_, fun entry hm hp => ?_⟩
    · -- the listing of processes alone
      have hreturns := h fun _ => false
      rw [getLcuProcessCommand_eq] at hreturns
      have hline := hreturns.1 client hclient
      rcases find?_keeping_cases (fun _ => false) entries with
        ⟨hfirst, -⟩ | ⟨entry, hm, hp, hfirst⟩ | ⟨seen, hfind, hfirst⟩
      · rw [hfirst] at hline
        cases hline
      · have hkept := List.mem_filter.mp (List.mem_of_find?_eq_some hfirst)
        have hname := not_process_of_passes hm hp
        simp [hname] at hkept
      · rw [hfirst] at hline
        exact ⟨seen, hfind, Except.ok.inj hline⟩
    · have hreturns := h (· = entry)
      rw [getLcuProcessCommand_eq, find?_keeping_one hm hp] at hreturns
      cases hfind : entries.find? (·.IsClient) with
      | none =>
          obtain ⟨what, hwhat⟩ := hreturns.2 hfind
          cases hwhat
      | some client =>
          have hline := hreturns.1 client hfind
          exact ⟨client, rfl, (Except.ok.inj hline).symm⟩
  · intro h keep
    rw [getLcuProcessCommand_eq]
    rcases find?_keeping_cases keep entries with
      ⟨hfirst, hnone⟩ | ⟨entry, hm, hp, hfirst⟩ | ⟨seen, hfind, hfirst⟩
    · rw [hfirst]
      constructor
      · intro client hclient
        obtain ⟨seen, hseen, -⟩ := h.seen client hclient
        rw [hnone] at hseen
        cases hseen
      · intro _
        exact ⟨_, rfl⟩
    · rw [hfirst]
      obtain ⟨client, hclient, hline⟩ := h.passers entry hm hp
      exact returnsFirstClient hclient hline
    · rw [hfirst]
      have hs : seen.IsSeen := by simpa using List.find?_some hfind
      have hsome : (entries.find? (·.IsClient)).isSome = true :=
        List.find?_isSome.mpr ⟨seen, List.mem_of_find?_eq_some hfind, by simpa using hs.1⟩
      obtain ⟨client, hclient⟩ := Option.isSome_iff_exists.mp hsome
      obtain ⟨other, hother, hline⟩ := h.seen client hclient
      rw [Option.mem_def.mp hfind] at hother
      rw [Option.some.inj hother]
      exact returnsFirstClient hclient hline.symm

-- Nothing but the directory of an old copy, whose name is no number.
def staleCopy : List ProcEntry := [⟨"124.old".toList, clientOnPort "12345", []⟩]

theorem staleCopy_returned : staleCopy.find? (·.IsClient) = none ∧
    getLcuProcessCommand { path := "/proc", entries := staleCopy, fails := false } =
      .ok (clientOnPort "12345") ∧ ¬SeesProcessesOnly "/proc" staleCopy := by
  have hnone : staleCopy.find? (·.IsClient) = none := by decide
  have hresult : getLcuProcessCommand { path := "/proc", entries := staleCopy, fails := false } =
      .ok (clientOnPort "12345") := by decide
  refine ⟨hnone, hresult, fun h => ?_⟩
  obtain ⟨what, hwhat⟩ := (h fun _ => true).2 hnone
  rw [show keeping (fun _ => true) staleCopy = staleCopy from rfl, hresult] at hwhat
  cases hwhat

end ProcDirectory

end Rito
