import Clearance.CommandLine.Run
import Clearance.Printed.Plain
import Clearance.Trail.File

/-!
# The program

Reads the files that a command line names, runs it, and writes down what changed.
-/

namespace Clearance.Main

open CommandLine (Ending Invocation Workspace)
open Trail (Content Files)

/-- The days before the first of January 1970. -/
def epochDay : Nat :=
  ({ year := 1970, month := 1, day := 1 } : Time.Date).dayNumber

/-- The universal time, as the file system tells it of a file that is new. -/
def readClock : IO Engine.Clock := do
  let (handle, path) <- IO.FS.createTempFile
  try
    handle.putStr "now"
    handle.flush
    let now := (<- path.metadata).modified
    let micros := now.sec.toNat * Time.microsPerSecond + now.nsec.toNat / 1000
    return { now := { wall := epochDay * Time.microsPerDay + micros, offset := some 0 } }
  finally
    IO.FS.removeFile path

/-- The content of a file, if it is there and holds text. -/
def readContent? (name : String) : IO (Option Content) := do
  try
    return some (Content.ofKept (<- IO.FS.readFile ("/" ++ name)))
  catch _ =>
    return none

def isDirectory (name : String) : IO Bool := do
  try
    (<- IO.FS.realPath ("/" ++ name)).isDir
  catch _ =>
    return false

/-- Adds the file of a path, and the directory that it is in. -/
def addPath (w : Workspace) (path : String) : IO Workspace := do
  match w.resolve? path with
  | none => return w
  | some name =>
      let mut files := w.files
      for directory in [name, Trail.directoryOf name] do
        if <- isDirectory directory then files := files.addDirectory directory
      if let some content <- readContent? name then files := Table.set name content files
      return { w with files }

def workspace (paths : List String) : IO Workspace := do
  let clock <- readClock
  let directory := ((<- IO.currentDir).toString.splitOn "/").filter fun part => !part.isEmpty
  paths.foldlM addPath { root := "", directory, clock, reportTime := clock.now.isoText }

/-- Writes down the files that changed. -/
def keep (before after : Files) : IO Unit :=
  for (name, content) in after do
    if Table.get? name before != some content then IO.FS.writeFile ("/" ++ name) content.toText

/-- Asks until a line gives an answer; the lines that were typed. -/
partial def readAnswer (typed : List String) : IO (List String) := do
  let stderr <- IO.getStderr
  stderr.putStr (" ".intercalate (Confirmation.Prompt.question false).lines)
  stderr.flush
  let line <- (<- IO.getStdin).getLine
  if line.isEmpty then return typed
  let line := (line.dropEndWhile (· == '\n')).toString
  let typed := typed ++ [line]
  if line.isEmpty || (Confirmation.Prompt.answerOf? line).isSome then return typed
  readAnswer typed

/-- Asks what a check needs to be told. -/
def withInput (i : Invocation) (w : Workspace) : IO Workspace := do
  match i with
  | .check o =>
      match w.runCheck o with
      | (_, .inquiry inquiry :: _, _) =>
          if let .ok panel := Confirmation.Prompt.panel inquiry then
            for line in panel.lines do
              IO.eprintln line
          return { w with input := <- readAnswer [] }
      | _ => return w
  | _ => return w

/-- Shows how a command ended. -/
def tell (e : Ending) : IO UInt32 := do
  let o := e.output "no trace is kept"
  for item in o.console do
    for line in item.lines do
      IO.println line
  IO.print o.text
  if let .crashed _ := e then IO.eprintln "The command was stopped."
  return UInt32.ofNat o.exit

end Clearance.Main

open Clearance in
def main (words : List String) : IO UInt32 := do
  match CommandLine.Invocation.ofWords words with
  | .error _ =>
      CommandLine.usageLines.forM IO.eprintln
      return 2
  | .ok .help =>
      CommandLine.usageLines.forM IO.println
      return 0
  | .ok i => do
      let w <- Main.withInput i (<- Main.workspace i.paths)
      let (ending, after) := w.run i
      Main.keep w.files after.files
      Main.tell ending
