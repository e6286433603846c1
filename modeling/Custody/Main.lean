import Custody.Program

open Custody

-- What a path leads to. One that cannot be walked to its end, through a file or being too long,
-- leads to nothing, as it does on a `Disk`.
def sourceAt (path : String) : IO Settings.Source := do
  match ← (IO.FS.realPath path).toBaseIO with
  | .error _ => return .nothing
  | .ok _ =>
    try return .file (← IO.FS.readBinFile path)
    catch _ => return .unreadable

def main (words : List String) : IO UInt32 := do
  let userName ← IO.getEnv "TRUST_STEWARD_USER"
  let settingsPath ← IO.getEnv "TRUST_STEWARD_CONFIG"
  let surroundings : Program.Surroundings :=
    { words, userName, settingsPath, source := fun _ => .nothing }
  let source ← match surroundings.path? with
    | some path => sourceAt path
    | none => pure .nothing
  let result := Program.run { surroundings with source := fun _ => source }
  IO.print result.output
  IO.eprint result.errors
  return result.code.toUInt32
