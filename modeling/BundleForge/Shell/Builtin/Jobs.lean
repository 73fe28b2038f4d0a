import BundleForge.Shell.Builtin.Signals

/-!
The jobs of a shell in the background: waiting for them, and telling of them. The one that was started
last comes first. Main statement: a job that was only just started is the current one.
-/

namespace BundleForge.Shell.Run

/-- The first number that no job has. A job that is over and was waited for gives its number away. -/
def spareJob (jobs : List (Nat × Job)) : Nat :=
  let used := (jobs.filter fun j => !(j.2.isOver && j.2.waited)).map Prod.fst
  (((List.range (used.length + 1)).map (· + 1)).find? fun n => !used.contains n).getD 1

/-- Adds a job. -/
def addJob (pids : List Nat) (e : Environment) : Environment :=
  let n := spareJob e.jobs
  { e with
    jobs := (n, ⟨pids.map (·, none), false⟩) :: e.jobs.filter (·.1 ≠ n)
    lastJob := pids.getLast? }

theorem addJob_head (pids : List Nat) (e : Environment) :
    (addJob pids e).jobs.head? = some (spareJob e.jobs, ⟨pids.map (·, none), false⟩) := rfl

/-- Waits until the jobs are over, or a signal comes, which is told by its status. -/
def awaitInterrupted (pids : List Nat) : Run (Option Nat) := do
  let s ← get
  unless pids.all s.world.isOver || !s.pending.isEmpty do pauseOrSignal (.ends pids)
  let s ← get
  if pids.all s.world.isOver then return none
  return s.pending.head?.map (· + 128)

/-- The processes of a job that have not ended yet as far as the shell knows. -/
def Job.unnoticed (j : Job) : List Nat := (j.processes.filter fun p => p.2.isNone).map Prod.fst

/-- Waits for jobs, for all of them where none is named. The status is that of the last one that is
named. -/
def wait : Builtin := fun arguments => do
  let (_, names) ← optionsOf "" arguments
  if names.isEmpty then
    match ← awaitInterrupted ((← get).jobs.flatMap fun j => Job.unnoticed j.2) with
    | some status => return status
    | none => do
      notice
      modify fun s => { s with jobs := s.jobs.map fun (n, j) => (n, { j with waited := true }) }
      return 0
  else each names 127
where
  each : List String → Nat → Run Nat
    | [], status => return status
    | name :: rest, status => do
      let job? ← if name.toList.head? = some '%' then some <$> jobNamed name
        else do
          let pid ← number name
          pure ((← get).jobs.find? fun j => j.2.pids.getLast? = some pid)
      match job? with
      | none => each rest status
      | some (n, job) => do
        let open_ := Job.unnoticed job
        match ← awaitInterrupted open_ with
        | some status => return status
        | none => do
          let endings := open_.filterMap (← get).world.endingOf
          notice
          complainOctets (String.join (endings.map Ending.told))
          let job := ((← get).jobs.lookup n).getD job
          modify fun s => { s with jobs := s.jobs.map fun j =>
            if j.1 = n then (n, { job with waited := true }) else j }
          each rest job.ending.status

/-- What is shown of a job: its number, how it stands, and where that is wanted the numbers of its
processes. -/
def jobText (jobs : List (Nat × Job)) (pids onlyFirst : Bool) (n : Nat) (j : Job) : String :=
  let first := (j.pids.head?).getD 0
  if onlyFirst then toString first ++ "\n"
  else
    let front := "[" ++ toString n ++ "] "
    let mark := if jobs.head?.any (·.1 = n) then "+" else if jobs.tail.head?.any (·.1 = n) then "-" else " "
    let state := if !j.isOver then "Running"
      else match j.ending with
        | .exited 0 => "Done"
        | .exited status => "Done(" ++ toString status ++ ")"
        | .killed signal => String.ofList (signalTold signal).toList.dropLast
    let line := front ++ mark ++ " " ++ (if pids then toString first ++ " " else "") ++ state
    let wide (s : String) : String := Text.padRight s (max 33 (s.length + 1))
    if pids then
      String.join ((wide line :: j.pids.tail.map fun pid =>
        let indent := String.ofList (List.replicate (front.length + 2) ' ')
        " |\n" ++ Text.padRight (indent ++ toString pid ++ " ") 33)) ++ "\n"
    else wide line ++ String.join (j.pids.tail.map fun _ => " | ") ++ "\n"

/-- Tells of jobs, and forgets those that are over. -/
def jobs : Builtin := fun arguments => do
  let (given, names) ← optionsOf "lp" arguments
  notice
  let all := (← get).jobs
  let chosen ← if names.isEmpty then pure all else names.mapM jobNamed
  let last := given.getLast?.map Prod.fst
  let gone (j : Nat × Job) : Bool := last ≠ some 'p' && j.2.isOver && chosen.any (·.1 = j.1)
  modify fun s => { s with jobs := s.jobs.filter (!gone ·) }
  put (String.join (chosen.map fun (n, j) => jobText all (last = some 'l') (last = some 'p') n j))

/-- Jobs go on in the background or in front only where a terminal controls them. -/
def resume : Builtin := fun arguments => do
  let (_, names) ← optionsOf "" arguments
  let job := names.headD "%%"
  if names.isEmpty && (← get).jobs.isEmpty then fail "No current job"
  let _ ← jobNamed job
  fail ("job " ++ (if names.isEmpty then "(null)" else job) ++ " not created under job control")

end BundleForge.Shell.Run
