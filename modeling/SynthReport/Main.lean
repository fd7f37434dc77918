import Std.Time.Format
import SynthReport.Program

/-! # The command line

The program on the files and streams of the operating system. -/

namespace SynthReport

/-- What the system says of a file, in the terms of file trees. -/
def fileErrorOf : IO.Error → FileError
  | .noFileOrDirectory .. => .notFound
  | .inappropriateType _ 20 _ => .notADirectory
  | .inappropriateType _ 21 _ => .isADirectory
  | .invalidArgument _ 36 _ => .nameTooLong
  | error => .other (toString error)

/-- The outcome of an action on files. -/
def attempt {α : Type} (action : IO α) : IO (Except FileError α) := do
  try
    return .ok (← action)
  catch error =>
    return .error (fileErrorOf error)

/-- The path names a regular file. What the system does not answer for is none. -/
def isRegularFile (path : String) : IO Bool := do
  let entry : IO.FS.DirEntry := { root := path, fileName := "" }
  try
    return (← entry.root.metadata).type == .file
  catch _ =>
    return false

/-- The time of day, to the second. -/
def timeOfDay : IO String := do
  return (← Std.Time.PlainDateTime.now).format "uuuu-MM-dd HH:mm:ss"

/-- **The host that the operating system is.** The log is not shown. -/
def systemHost : Host IO where
  isFile := isRegularFile
  readFile path := attempt (IO.FS.readBinFile path)
  writeFile path document := attempt (IO.FS.writeFile path document)
  print text := IO.print text
  warn text := IO.eprint text
  log _ := return ()
  time := timeOfDay

end SynthReport

/-- Runs the program on the arguments of the command line. -/
def main (arguments : List String) : IO UInt32 := do
  return (← SynthReport.program SynthReport.systemHost arguments).toUInt32
