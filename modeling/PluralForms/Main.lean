import PluralForms.Program.Files
import PluralForms.Program.Clock
import Std.Time.DateTime.Timestamp

/-!
# The `plural` command

Reads the arguments, runs the program, reads the tree file when the run asks for it, prints the
two output streams and exits with the run's status.
-/

namespace PluralForms

namespace Program

/-- The operating system's reason for a failed read, in the words the program reports. -/
def readFailure (e : IO.Error) : String :=
  let byCode (code : UInt32) : String :=
    if code = 2 then notFound
    else if code = 20 then notDirectory
    else if code = 21 then isDirectory
    else if code = 36 then nameTooLong
    else if code = 13 then "Permission denied (os error 13)"
    else if code = 40 then "Too many levels of symbolic links (os error 40)"
    else toString e
  match e with
  | .noFileOrDirectory _ code _ => byCode code
  | .inappropriateType _ code _ => byCode code
  | .permissionDenied _ code _ => byCode code
  | .invalidArgument _ code _ => byCode code
  | .otherError code _ => byCode code
  | _ => toString e

/-- The contents of a text file, or the reason it cannot be read. -/
def readText (path : String) : IO (Except String String) := do
  try
    let bytes ← IO.FS.readBinFile path
    match String.fromUTF8? bytes with
    | some text => pure (.ok text)
    | none => pure (.error "stream did not contain valid UTF-8")
  catch e =>
    pure (.error (readFailure e))

def runProcess (args : List String) : IO UInt32 := do
  let now ← Std.Time.Timestamp.now
  let time := timestampText now.toNanosecondsSinceUnixEpoch.val
  let t ← match run time args with
    | .done t => pure t
    | .reading path resume => do
      let contents ← readText path
      pure (resume contents)
  IO.print t.stdout
  IO.eprint t.stderr
  pure t.exitCode.toUInt32

end Program

end PluralForms

def main (args : List String) : IO UInt32 :=
  PluralForms.Program.runProcess args
