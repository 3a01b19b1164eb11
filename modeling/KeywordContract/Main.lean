import KeywordContract.CommandLine.Session
import Std.Time.DateTime.Timestamp

/-!
# The program

The command line on a real host: files, random numbers, the clock and the environment.
-/

namespace KeywordContract

/-- The number of a system error. Some operations report it below zero, in 32 bits. -/
def systemErrorNumber (code : UInt32) : UInt32 := min code (-code)

/-- Why a file could not be read. -/
def FileError.ofSystem (e : IO.Error) : FileError :=
  match e with
  | .noFileOrDirectory _ _ _ => .notFound
  | .inappropriateType _ code _ =>
    if systemErrorNumber code = 20 then .notDirectory else .isDirectory
  | .invalidArgument _ code _ =>
    if systemErrorNumber code = 36 then .nameTooLong else .other (toString e)
  | .permissionDenied _ _ _ => .other "Permission denied (os error 13)"
  | _ => .other (toString e)

/-- The text of a file of the system. -/
def systemText (path : String) : IO (Except FileError String) := do
  if path.toList.contains '\x00' then return .error .nulInName
  try
    return decodeText (← IO.FS.readBinFile path)
  catch e => return .error (.ofSystem e)

/-- A seed from the system's source of randomness. -/
def freshSeed : IO Nat := do
  return (← IO.getRandomBytes 8).toList.foldl (fun n b => 256 * n + b.toNat) 0

def systemPick (seed : Option Int) (low high : Int) : IO Int := do
  let seed ← match seed with
    | some n => pure (n % UInt64.size).toNat
    | none => freshSeed
  return low + (randNat (mkStdGen seed) 0 (high - low).toNat).1

def systemHost : Host IO := { textFile := systemText, pick := systemPick }

def systemClock : Clock IO where
  now := return ⟨(← Std.Time.Timestamp.now).toNanosecondsSinceUnixEpoch.val⟩
  milliseconds := IO.monoMsNow

def systemSettings : IO Settings := do
  let environment ← Settings.variableNames.filterMapM fun name =>
    return (← IO.getEnv name).map fun value => (name, value)
  return .ofEnvironment fun name => environment.lookup name

end KeywordContract

open KeywordContract in
def main (args : List String) : IO UInt32 := do
  let report ← CommandLine.execute systemHost systemClock (← systemSettings) args
  for line in report.output do
    IO.println line
  if let some error := report.error then
    IO.eprintln error
  return report.code.toUInt32
