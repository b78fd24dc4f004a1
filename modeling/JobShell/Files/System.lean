import JobShell.Files.Edit

/-!
The tree that every machine starts with: the usual directories, devices and programs.
-/

namespace JobShell.FileSystem

def programs : List String :=
  ["true", "false", "echo", "cat", "sort", "printf", "pwd", "sleep", "mkdir", "rmdir", "rm", "mv",
    "touch", "test", "[", "sh"]

def directories : List String :=
  ["/boot", "/dev", "/etc", "/home", "/media", "/mnt", "/opt", "/proc/self/fd", "/root", "/run",
    "/srv", "/sys", "/tmp", "/usr/bin", "/usr/lib", "/usr/local/bin", "/usr/local/sbin",
    "/usr/sbin", "/usr/share", "/var/tmp"]

def links : List (String × String) :=
  [("/bin", "usr/bin"), ("/lib", "usr/lib"), ("/sbin", "usr/sbin"), ("/dev/fd", "/proc/self/fd"),
    ("/dev/stdin", "/proc/self/fd/0"), ("/dev/stdout", "/proc/self/fd/1"),
    ("/dev/stderr", "/proc/self/fd/2")]

def devices : List (String × Device) :=
  [("/dev/null", .null), ("/dev/zero", .zero), ("/dev/full", .full), ("/dev/tty", .terminal)]

def namedDescriptors : Nat := 10

def install (fs : FileSystem) (path : String) (node : Node) : FileSystem :=
  match fs.freePlace root path with
  | .ok (dir, name) =>
    let (id, fs) := fs.add node
    fs.enter dir name id
  | .error _ => fs

def systemMode : Nat := 0o555

/-- Protects every directory but `/tmp` and those below it. -/
def protect (fs : FileSystem) : FileSystem :=
  directories.foldl (fun fs path =>
    if path.startsWith "/tmp" then fs
    else
      match fs.find root path with
      | .ok id => fs.setMode id systemMode
      | .error _ => fs) (fs.setMode root systemMode)

def base : FileSystem :=
  let bare : FileSystem := directories.foldl (fun fs path => makeDirectories fs root path) {}
  let filled : FileSystem :=
    programs.foldl (fun fs name => install fs ("/usr/bin/" ++ name) (.program name)) bare
  let equipped : FileSystem :=
    devices.foldl (fun fs (path, device) => install fs path (.device device)) filled
  let numbered : FileSystem :=
    (List.range namedDescriptors).foldl (fun fs number =>
      install fs ("/proc/self/fd/" ++ toString number) (.descriptor number)) equipped
  let linked : FileSystem :=
    links.foldl (fun fs (path, target) => install fs path (.link target)) numbered
  protect linked

end JobShell.FileSystem
