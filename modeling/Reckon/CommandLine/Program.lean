import Reckon.CommandLine.Prompt

/-!
# The program

What the program prints and the code it exits with, given its arguments, its input, and what
reading a file yields.
-/

namespace Reckon.CommandLine

/-- Why a file cannot be read. -/
inductive FileError where
  | notFound
  | isDirectory
  | other (reason : String)
  deriving DecidableEq, Repr

/-- The reason in the words of the system. -/
def FileError.reason : FileError → String
  | .notFound => "No such file or directory (os error 2)"
  | .isDirectory => "Is a directory (os error 21)"
  | .other reason => reason

/-- What is printed if a file cannot be read, and the exit code. -/
def unreadableFile (path reason : String) : Output × Nat :=
  (.toErr s!"Failed to read '{path}': {reason}\n", 66)

/-- Runs a source file, given its content. -/
def runFile (flags : Flags) (path : String) (content : Except FileError (List UInt8)) :
    Output × Nat :=
  match content with
  | .error e => unreadableFile path e.reason
  | .ok bytes =>
    match decode? bytes with
    | none => unreadableFile path notTextReason
    | some source =>
      let (output, outcome) := execute flags source
      (output, outcome.exitCode)

/-- Runs the program. -/
def program (files : String → Except FileError (List UInt8)) (arguments : List String)
    (input : List UInt8) : Output × Nat :=
  match request arguments with
  | .error e => (.toErr e.message, 2)
  | .ok .help => (.toOut helpText, 0)
  | .ok .version => (.toOut versionText, 0)
  | .ok (.evaluate flags none) => prompt flags input
  | .ok (.evaluate flags (some path)) => runFile flags path (files path)

end Reckon.CommandLine
