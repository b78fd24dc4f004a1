import JobShell.CommandLine
import JobShell.Files.System
import JobShell.Program.Standard

/-!
The command line. The shell works on a machine of its own, which starts with the usual tree of
files and ends with the run; standard input and output are those of this process.
-/

namespace JobShell.Main

def exported : Variables :=
  [("PATH", "/usr/local/sbin:/usr/local/bin:/usr/sbin:/usr/bin:/sbin:/bin"), ("LC_ALL", "C")]

def home : String := "/root"

def invocation (input : Bytes) : CommandLine.Invocation :=
  let files := FileSystem.base
  let cwd := (files.find FileSystem.root home).toOption.getD FileSystem.root
  let log : Node := .file 0o644 []
  { machine := .boot 2 files cwd input log 3 .interactive, exported, currentDir := home }

partial def readAll (stream : IO.FS.Stream) (done : ByteArray) : IO ByteArray := do
  let chunk ← stream.read 65536
  if chunk.isEmpty then return done else readAll stream (done ++ chunk)

end JobShell.Main

open JobShell in
def main (arguments : List String) : IO UInt32 := do
  match readArguments arguments with
  | .error error =>
    (← IO.getStderr).putStr error.message
    return 1
  | .ok .help =>
    (← IO.getStdout).putStr usage
    return 0
  | .ok (.run options) =>
    let input ← if options.commands.isEmpty then Main.readAll (← IO.getStdin) .empty
      else pure .empty
    let (code, session) := CommandLine.run Programs.system (Main.invocation input.data.toList) options
    let machine := session.machine
    (← IO.getStdout).write ⟨machine.output.toArray⟩
    (← IO.getStderr).write ⟨(machine.store.content machine.streams.errors).toArray⟩
    return code.toUInt32
