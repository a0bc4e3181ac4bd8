import Reckon.CommandLine.Execution

/-!
# The prompt

Without a source file the program reads lines and runs each on its own. Faults are printed, and the
prompt goes on. It ends with the input, or with the first line that is not text.
-/

namespace Reckon.CommandLine

/-! ## Lines of bytes -/

/-- A line without the carriage return at its end. -/
def withoutReturn (line : List UInt8) : List UInt8 :=
  if line.getLast? = some 13 then line.dropLast else line

/-- The lines of an input, without their ends: a line feed, or a carriage return and a line feed.
What follows the last line feed is a line as it stands, unless it is empty. -/
def inputLines (input : List UInt8) : List (List UInt8) :=
  let pieces := input.splitOn 10
  let last := pieces.getLastD []
  pieces.dropLast.map withoutReturn ++ if last.isEmpty then [] else [last]

/-- The text that bytes encode. -/
def decode? (bytes : List UInt8) : Option String :=
  String.fromUTF8? ⟨bytes.toArray⟩

/-! ## The conversation -/

/-- What is printed before each line is read. -/
def promptText : String := "> "

/-- What is wrong with bytes that are not text. -/
def notTextReason : String := "stream did not contain valid UTF-8"

/-- What is printed for a line that is not text. -/
def unreadableLine : Output :=
  .toErr s!"Failed to read input: {notTextReason}\n"

/-- What is printed for a line, if it is text. -/
def respond? (flags : Flags) (line : List UInt8) : Option Output :=
  (decode? line).map fun source => (execute flags source).1

/-- What is printed for a list of lines, and the exit code. -/
def converse (flags : Flags) : List (List UInt8) → Output × Nat
  | [] => (.toOut (promptText ++ "\n"), 0)
  | line :: rest =>
    match respond? flags line with
    | none => (.toOut promptText ++ unreadableLine, 1)
    | some output =>
      let (later, code) := converse flags rest
      (.toOut promptText ++ output ++ later, code)

/-- What is printed for an input at the prompt, and the exit code. -/
def prompt (flags : Flags) (input : List UInt8) : Output × Nat :=
  converse flags (inputLines input)

end Reckon.CommandLine
