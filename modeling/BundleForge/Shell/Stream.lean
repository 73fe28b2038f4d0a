import BundleForge.Shell.State

/-!
Reading from streams and writing to them. Whoever reads where nothing is there yet waits, and so does
whoever writes where there is no room. Main statements: a file is read in order from where a stream
stands, and what is written to nowhere changes nothing.
-/

namespace BundleForge.Shell

/-- Why a stream cannot be read or written. -/
inductive StreamFault
  | notOpen
  | isDirectory
  | noRoom
  | broken
deriving DecidableEq, Repr

def StreamFault.wording : StreamFault → String
  | .notOpen => "Bad file descriptor"
  | .isDirectory => "Is a directory"
  | .noRoom => "No space left on device"
  | .broken => "Broken pipe"

namespace World

/-- What an open file holds now. -/
def holding (w : World) (f : OpenFile) : List UInt8 :=
  match f.lead with
  | .file place => (w.contentAt? place).getD f.held
  | _ => f.held

/-- Whether reading from an open file does not have to wait. -/
def isReady (w : World) (file : Nat) : Bool :=
  match w.files.lookup file with
  | none => true
  | some f =>
    match f.lead with
    | .input => !w.input.isEmpty || w.inputEnds
    | .pipe n => (w.pipes.lookup n).any (fun p => p.size ≠ 0) || !w.hasEnd n true
    | _ => true

/-- The bytes that can be read from an open file without waiting. -/
def available (w : World) (file : Nat) : List UInt8 :=
  match w.files.lookup file with
  | none => []
  | some f =>
    if !f.reads then []
    else match f.lead with
    | .input => w.input
    | .pipe n => (w.pipes.lookup n).elim [] fun p => if p.back.isEmpty then p.front else p.toList
    | .file _ => (w.holding f).drop f.position
    | _ => []

/-- Reads up to a number of bytes. -/
def read (w : World) (file limit : Nat) : Except StreamFault (List UInt8) × World :=
  match w.files.lookup file with
  | none => (.error .notOpen, w)
  | some f =>
    if !f.reads then (.error .notOpen, w)
    else match f.lead with
    | .input => (.ok (w.input.take limit), { w with input := w.input.drop limit })
    | .pipe n =>
      match w.pipes.lookup n with
      | none => (.ok [], w)
      | some p =>
        let (taken, p) := p.take limit
        (.ok taken, { w with pipes := Entries.put n p w.pipes })
    | .file _ =>
      let held := w.holding f
      let taken := (held.drop f.position).take limit
      (.ok taken, { w with
        files := Entries.put file { f with held, position := f.position + taken.length } w.files })
    | .directory _ => (.error .isDirectory, w)
    | .zeros | .full => (.ok (List.replicate limit 0), w)
    | .nothing => (.ok [], w)
    | .channel _ => (.error .notOpen, w)

/-- Bytes with others put in at a position, in place of those that stand there. -/
def overwritten (held : List UInt8) (position : Nat) (bytes : List UInt8) : List UInt8 :=
  held.take position ++ List.replicate (position - held.length) 0 ++ bytes ++
    held.drop (position + bytes.length)

theorem overwritten_end (held bytes : List UInt8) :
    overwritten held held.length bytes = held ++ bytes := by
  simp [overwritten]

/-- Writes bytes, and tells how many of them there was room for. -/
def write (w : World) (file : Nat) (bytes : List UInt8) : Except StreamFault Nat × World :=
  match w.files.lookup file with
  | none => (.error .notOpen, w)
  | some f =>
    if !f.writes then (.error .notOpen, w)
    else match f.lead with
    | .channel n => (.ok bytes.length, { w with channels := w.channels.modify n fun c => c.push bytes })
    | .pipe n =>
      if !w.hasEnd n false then (.error .broken, w)
      else match w.pipes.lookup n with
        | none => (.error .broken, w)
        | some p =>
          let taken := min p.room bytes.length
          let p := if taken = 0 then p else p.put (bytes.take taken)
          (.ok taken, { w with pipes := Entries.put n p w.pipes })
    | .file place =>
      let held := w.holding f
      let position := if f.behind then held.length else f.position
      let content := overwritten held position bytes
      let f := { f with held := content, position := position + bytes.length }
      let w := { w with files := Entries.put file f w.files }
      (.ok bytes.length,
        if (w.contentAt? place).isSome then
          { w with tree := w.tree.setAt place (.file content) }.stamped place
        else w)
    | .full => (.error .noRoom, w)
    | .nothing | .zeros => (.ok bytes.length, w)
    | .directory _ | .input => (.error .notOpen, w)

theorem write_nothing (w : World) (file : Nat) (f : OpenFile) (bytes : List UInt8)
    (h : w.files.lookup file = some f) (hl : f.lead = .nothing) (hw : f.writes = true) :
    w.write file bytes = (.ok bytes.length, w) := by
  simp [write, h, hl, hw]

/-- Whether there is room in a pipe, or nobody who could make some. -/
def hasRoom (w : World) (pipe : Nat) : Bool :=
  (w.pipes.lookup pipe).all (fun p => p.room ≠ 0) || !w.hasEnd pipe false

/-- Goes back by some bytes in a file. What was read elsewhere is gone. -/
def goBack (w : World) (file n : Nat) : World :=
  match w.files.lookup file with
  | some f =>
    match f.lead with
    | .file _ => { w with files := Entries.put file { f with position := f.position - n } w.files }
    | _ => w
  | none => w

end World

namespace Run

/-- The open file that a stream leads to. -/
def file? (stream : Nat) : Run (Option Nat) := do
  let s ← get
  return s.world.fileOf? s.pid stream

/-- Reads up to a number of bytes from a stream. None at all are read at its end. -/
def readSome (stream limit : Nat) : Run (Except StreamFault (List UInt8)) := do
  match ← file? stream with
  | none => return .error .notOpen
  | some file => do
    unless (← get).world.isReady file do pause (.bytes file)
    modifyGet fun s =>
      let (result, world) := s.world.read file limit
      (result, { s with world })

/-- How many times a stream is waited for. -/
def patience : Nat := 1000000000

/-- How much is read at a time. -/
def blockSize : Nat := 65536

/-- The next line of a stream, read behind what was read before, and whether it has an end. -/
def readLineFrom (stream : Nat) : Nat → List (List UInt8) → Run (List UInt8 × Bool)
  | 0, _ => halt .exhausted
  | fuel + 1, before => do
    match ← file? stream with
    | none => return (before.reverse.flatten, false)
    | some file => do
      unless (← get).world.isReady file do pauseOrSignal (.bytes file)
      let s ← get
      if !s.pending.isEmpty && !s.world.isReady file then return (before.reverse.flatten, false)
      let line := (s.world.available file).takeWhile (· ≠ 10)
      match ← readSome stream (line.length + 1) with
      | .error _ | .ok [] => return (before.reverse.flatten, false)
      | .ok bytes =>
        if bytes.length = line.length + 1 && bytes.getLast? = some 10 then
          return ((line :: before).reverse.flatten, true)
        readLineFrom stream fuel (bytes :: before)

/-- The next line of a stream without its end, and whether it has one. -/
def readLine (stream : Nat) : Run (List UInt8 × Bool) := readLineFrom stream patience []

/-- All that a stream gives, read to its end behind what was read before, which is held back to front. -/
def readFrom (stream : Nat) : Nat → List (List UInt8) → Run (Except StreamFault (List UInt8))
  | 0, _ => halt .exhausted
  | fuel + 1, before => do
    match ← readSome stream blockSize with
    | .error fault => return .error fault
    | .ok [] => return .ok before.reverse.flatten
    | .ok bytes => readFrom stream fuel (bytes :: before)

def readToEnd (stream : Nat) : Run (Except StreamFault (List UInt8)) := readFrom stream patience []

/-- What becomes of an action that writes where nobody reads: it is killed, unless that signal is
caught. -/
def brokenPipe : Run (Option StreamFault) := do
  let s ← get
  match if s.ignored.contains 13 then some "" else s.traps.lookup 13 with
  | none => halt (.killed 13)
  | some script => do
    unless script.isEmpty do set { s with pending := 13 :: s.pending }
    return some .broken

/-- Writes bytes to an open file, in as many turns as it takes. -/
def writeFile (file : Nat) : Nat → List UInt8 → Run (Option StreamFault)
  | 0, _ => halt .exhausted
  | fuel + 1, bytes => do
    if bytes.isEmpty then return none
    let result ← modifyGet fun s =>
      let (result, world) := s.world.write file bytes
      (result, { s with world })
    match result with
    | .error .broken => brokenPipe
    | .error fault => return some fault
    | .ok n =>
      if n = bytes.length then return none
      else
        match ((← get).world.files.lookup file).map OpenFile.lead with
        | some (.pipe pipe) => pause (.room pipe)
        | _ => pause .turn
        writeFile file fuel (bytes.drop n)

/-- Writes bytes to a stream. -/
def write (stream : Nat) (bytes : List UInt8) : Run (Option StreamFault) := do
  match ← file? stream with
  | none => return if bytes.isEmpty then none else some .notOpen
  | some file => writeFile file patience bytes

end Run
end BundleForge.Shell
