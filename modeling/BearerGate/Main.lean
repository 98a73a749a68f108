import BearerGate.CommandLine
import Std.Time

/-!
# The Program

The outer layer of the command line: it reads the key file and the clock, draws a number, and
prints.
-/

open BearerGate

/-- What is printed for help. -/
def usageText : String :=
  "Issue a signed bearer token\n\n" ++
  "Usage: token-gen [OPTIONS] --private-key <FILE> --id <ID> --username <USERNAME>\n\n" ++
  "  --private-key <FILE>     signing key, as PEM or base64\n" ++
  "  --algorithm <ALGORITHM>  signature algorithm [default: RS512]\n" ++
  "  --id <ID>                number of the token\n" ++
  "  --username <USERNAME>    name of the user\n" ++
  "  --grant <GRANT>          role to grant; may be repeated\n" ++
  "  --lifetime <SECONDS>     lifetime [default: 3600]\n" ++
  "  --quiet                  print only the token\n" ++
  "  -h, --help               print this text\n" ++
  "  -V, --version            print the version\n"

/-- Why a file could not be read. -/
def reasonOf : IO.Error → String
  | .noFileOrDirectory .. => "No such file or directory (os error 2)"
  | .permissionDenied .. => "Permission denied (os error 13)"
  | e => toString e

/-- The text of a file, or the reason why there is none. -/
def contentOf (path : String) : IO (Except String String) := do
  try
    let text ← IO.FS.readFile ⟨path⟩
    return .ok text
  catch e => return .error (reasonOf e)

/-- Seconds since the epoch. -/
def currentSecond : IO Second := do
  let now ← Std.Time.Timestamp.now
  return Second.ofNat now.toSecondsSinceUnixEpoch.val.toNat

/-- A number of 64 random bytes, as many as any signature needs. -/
def drawn : IO Nat := do
  let bytes ← IO.getRandomBytes 64
  return Bytes.toNat bytes.toList

/-- What is said of a key that does not sign. -/
def signingRemark : String := "the key cannot be used"

/-- Carries out a command. -/
def perform : CommandLine.Command → IO UInt32
  | .help => do
    IO.print usageText
    return 0
  | .version => do
    IO.println "token-gen 0.1.0"
    return 0
  | .issue options => do
    let file ← contentOf options.keyPath
    let now ← currentSecond
    let draw ← drawn
    match CommandLine.issue (fun _ => file) now draw options with
    | .ok text =>
      IO.print text
      return 0
    | .error problem =>
      IO.eprintln (CommandLine.complaint (problem.chain signingRemark))
      return 1

/-- Runs the program on its arguments. -/
def main (args : List String) : IO UInt32 :=
  match CommandLine.read args with
  | .ok command => perform command
  | .error _ => do
    IO.eprintln "error: these arguments cannot be used; see --help"
    return 2
