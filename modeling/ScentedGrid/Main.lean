import ScentedGrid.CommandLine.Response

/-! The program: the files of the machine, its clock and its output. -/

namespace ScentedGrid.CommandLine

def fault : IO.Error → FileFault
  | .noFileOrDirectory _ _ _ => .missing
  | error => .other (toString error)

def disk : FileAccess IO :=
  { read := fun path => do
      try return .ok (← IO.FS.readBinFile path).toList
      catch error => return .error (fault error)
    write := fun path content => do
      try
        IO.FS.writeBinFile path (ByteArray.mk content.toArray)
        return .ok ()
      catch error => return .error (fault error) }

end ScentedGrid.CommandLine

open ScentedGrid.CommandLine in
def main (arguments : List String) : IO UInt32 := do
  let before ← IO.monoNanosNow
  let response ← respond .standard disk arguments
  let after ← IO.monoNanosNow
  IO.print response.stdout
  IO.eprint (response.stderr ++ timingText arguments response (after - before))
  return UInt32.ofNat response.exit
