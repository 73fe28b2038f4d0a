import BundleForge.Shell.Builtin.Flow

/-!
Signals: what a shell does when one comes, and sending one. Jobs have no signals of their own, as the
processes of a job are no group. Main statement: a signal is found under its name.
-/

namespace BundleForge.Shell

/-- The signals by name, from one on. Some only have a number. -/
def signalNames : List String := [
  "HUP", "INT", "QUIT", "ILL", "TRAP", "ABRT", "BUS", "FPE", "KILL", "USR1", "SEGV", "USR2", "PIPE",
  "ALRM", "TERM", "16", "CHLD", "CONT", "STOP", "TSTP", "TTIN", "TTOU", "URG", "XCPU", "XFSZ", "VTALRM",
  "PROF", "WINCH", "IO", "PWR", "SYS", "32", "33", "RTMIN"] ++
  (List.range 15).map (fun n => "RTMIN+" ++ toString (n + 1)) ++
  ((List.range 14).map fun n => "RTMAX-" ++ toString (14 - n)) ++ ["RTMAX"]

/-- The signal that comes when a process ends that was started. -/
def childSignal : Nat := 17

/-- The signals that do nothing to a process that does not ask for them. -/
def harmlessSignals : List Nat := [0, 17, 18, 23, 28]

/-- The name of a signal, or of the end of a shell. -/
def signalName (n : Nat) : String := if n = 0 then "EXIT" else (signalNames[n - 1]?).getD (toString n)

/-- The signal that a text names or numbers, zero standing for the end of the shell where that can be
meant. -/
def signal? (withEnd : Bool) (s : String) : Option Nat :=
  if !s.isEmpty && s.toList.all Char.isDigit then s.toNat?.filter (· ≤ 64)
  else if withEnd && s.toUpper = "EXIT" then some 0
  else (signalNames.findIdx? (· = s.toUpper)).map (· + 1)

theorem signal?_term : signal? false "term" = some 15 := by decide +kernel

namespace Run

/-- What a signal does to the process itself: a script is carried out later, or the process is killed. -/
def receive (signal : Nat) : Run Unit := do
  let s ← get
  let own := if signal = 9 then none else if s.ignored.contains signal then some "" else s.traps.lookup signal
  match own with
  | some "" => return ()
  | some _ => set { s with pending := signal :: s.pending.filter (· ≠ signal) }
  | none => unless harmlessSignals.contains signal do halt (.killed signal)

/-- The job that a name stands for: by its number, or the current one or the one before. -/
def jobNamed (name : String) : Run (Nat × Job) := do
  let jobs := (← get).jobs
  let given (job? : Option (Nat × Job)) (text : String) : Run (Nat × Job) :=
    match job? with
    | some job => pure job
    | none => fail text
  match name.toList with
  | ['%'] | ['%', '%'] | ['%', '+'] => given jobs.head? "No current job"
  | ['%', '-'] => given (jobs.tail).head? "No previous job"
  | '%' :: cs =>
    given (jobs.find? fun j => toString j.1 = String.ofList cs) ("No such job: " ++ name)
  | _ => fail ("No such job: " ++ name)

/-- Sends a signal to processes, or to jobs. -/
def send (signal : Nat) : List String → Run Nat
  | [] => return 0
  | name :: rest => do
    let pid? ← if name.toList.head? = some '%' then do
        let _ ← jobNamed name
        pure none
      else if name.toList.head? = some '-' then do
        let _ ← number (String.ofList name.toList.tail)
        pure none
      else some <$> number name
    let s ← get
    let status ← match pid? with
      | some pid =>
        if pid = s.pid then
          receive signal
          pure 0
        else match s.world.processes.lookup pid with
          | some p => do
            if p.ending.isNone && signal ≠ 0 then
              set { s with world := s.world.withProcess pid { p with signals := p.signals ++ [signal] } }
              pause .turn
            pure 0
          | none => do
            warn "No such process\n"
            pure 1
      | none => do
        warn "No such process\n"
        pure 1
    let others ← send signal rest
    return max status others

def killUsage : String :=
  "Usage: kill [-s sigspec | -signum | -sigspec] [pid | job]... or\nkill -l [exitstatus]"

/-- Sends a signal, by name or number, or tells how signals are called. -/
def kill : Builtin := fun arguments => do
  let list (rest : List String) : Run Nat := do
    match rest with
    | [] => put (String.join (("0" :: signalNames).map (· ++ "\n")))
    | a :: _ => do
      let n ← number a
      let n := if 128 < n then n - 128 else n
      if 0 < n && n ≤ 64 then put (signalName n ++ "\n")
      else fail ("invalid signal number or exit status: " ++ a)
  let sendTo (signal : Nat) (names : List String) : Run Nat :=
    if names.isEmpty then fail killUsage else send signal names
  match arguments with
  | [] => fail killUsage
  | a :: rest =>
    match a.toList with
    | '-' :: name =>
      match signal? false (String.ofList name) with
      | some signal => sendTo signal rest
      | none => do
        let (given, rest) ← optionsOf "ls:" (a :: rest)
        if given.any fun o => o.1 = 'l' then
          if given.any fun o => o.1 = 's' then fail killUsage else list rest
        else match given.getLast? with
          | some (_, name) =>
            match signal? false name with
            | some signal => sendTo signal rest
            | none => fail ("invalid signal number or name: " ++ name)
          | none => sendTo 15 rest
    | _ => sendTo 15 (a :: rest)

/-- Sets, or resets, the script for some signals, or shows them. -/
def trap : Builtin := fun arguments => do
  let (_, arguments) ← optionsOf "" arguments
  match arguments with
  | [] => do
    let traps := (← get).traps.mergeSort fun a b => a.1 ≤ b.1
    put (String.join (traps.map fun (n, script) =>
      "trap -- " ++ quotedValue script ++ " " ++ signalName n ++ "\n"))
  | [name] => change none [name]
  | script :: names => change (if script = "-" then none else some script) names
where
  change (script : Option String) : List String → Run Nat
    | [] => return 0
    | name :: rest => do
      match signal? true name with
      | none => do
        complainOctets ("trap: " ++ name ++ ": bad trap\n")
        return 1
      | some n => do
        modify fun s => { s with
          traps := script.elim (Entries.drop n s.traps) fun text => Entries.put n text s.traps }
        change script rest

end Run
end BundleForge.Shell
