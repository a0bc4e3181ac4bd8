import Reckon.CommandLine.Program

/-!
# The executable

Connects the program to files and to the standard channels. At the prompt each line is answered
before the next is read.
-/

namespace Reckon.CommandLine

/-- Prints on both channels. -/
def Output.print (output : Output) : IO Unit := do
  (← IO.getStdout).putStr output.out
  (← IO.getStdout).flush
  (← IO.getStderr).putStr output.err

/-- The content of a file. -/
def readContent (path : String) : IO (Except FileError (List UInt8)) := do
  try
    let bytes ← IO.FS.readBinFile path
    pure (.ok bytes.toList)
  catch
    | .noFileOrDirectory .. => pure (.error .notFound)
    | .inappropriateType .. => pure (.error .isDirectory)
    | e => pure (.error (.other (toString e)))

/-- The bytes up to the next line feed and with it, or up to the end of the input. -/
def readRawLine (input : IO.FS.Stream) : IO (List UInt8) := do
  let mut bytes : Array UInt8 := #[]
  repeat
    let next := (← input.read 1).toList
    bytes := bytes ++ next.toArray
    if next ≠ [] ∧ next ≠ [10] then continue
    break
  pure bytes.toList

/-- Answers the lines of the standard input, and yields the exit code. -/
def runPrompt (flags : Flags) : IO Nat := do
  let input ← IO.getStdin
  repeat
    (Output.toOut promptText).print
    match inputLines (← readRawLine input) with
    | [] =>
      (Output.toOut "\n").print
      return 0
    | line :: _ =>
      match respond? flags line with
      | some output => output.print
      | none =>
        unreadableLine.print
        return 1
  return 0

end Reckon.CommandLine

open Reckon.CommandLine in
/-- Runs the program and yields its exit code. -/
def main (arguments : List String) : IO UInt32 := do
  match request arguments with
  | .ok (.evaluate flags none) => return (← runPrompt flags).toUInt32
  | .ok (.evaluate flags (some path)) =>
    let (output, code) := runFile flags path (← readContent path)
    output.print
    return code.toUInt32
  | _ =>
    let (output, code) := program (fun _ => .error .notFound) arguments []
    output.print
    return code.toUInt32
