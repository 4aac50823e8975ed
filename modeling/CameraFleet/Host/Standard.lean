import CameraFleet.Host.Files

/-!
# The files of every host

The directories, devices, links and programs that are there before anything
has been written.
-/

namespace CameraFleet
namespace Host

/-- The date of what is there on every host, in milliseconds. -/
def standardDate : Int := 1767139200000

/-- The directories of every host, each after the one above it. -/
def standardDirectories : List Octets :=
  ["/boot", "/dev", "/dev/pts", "/dev/shm", "/etc", "/etc/default", "/home", "/media", "/mnt",
    "/opt", "/proc", "/root", "/run", "/srv", "/sys", "/tmp", "/usr", "/usr/bin", "/usr/games",
    "/usr/include", "/usr/lib", "/usr/lib64", "/usr/local", "/usr/local/bin", "/usr/local/lib",
    "/usr/local/sbin", "/usr/local/share", "/usr/sbin", "/usr/share", "/usr/src", "/var",
    "/var/cache", "/var/lib", "/var/log", "/var/tmp"]

/-- The links of every host, each with its target. -/
def standardLinks : List (Octets × Octets) :=
  [("/bin", "usr/bin"), ("/lib", "usr/lib"), ("/lib64", "usr/lib64"), ("/sbin", "usr/sbin"),
    ("/var/run", "/run"), ("/usr/bin/sh", "dash")]

/-- The devices of every host. -/
def standardDevices : List (Octets × Device) :=
  [("/dev/null", .null), ("/dev/zero", .zero), ("/dev/full", .full)]

/-- The programs of every host. -/
def standardPrograms : List Octets :=
  ["[", "awk", "b2sum", "basename", "bash", "cat", "chmod", "cksum", "cmp", "comm", "cp", "cut",
    "dash", "date", "dd", "diff", "dirname", "echo", "env", "expand", "expr", "false", "find", "fmt",
    "fold", "grep", "head", "id", "join", "kill", "ln", "ls", "mawk", "md5sum", "mkdir", "mktemp",
    "mv", "nice", "nl", "nohup", "od", "paste", "printenv", "printf", "pwd", "readlink",
    "realpath", "rev", "rm", "rmdir", "sed", "seq", "sha1sum", "sha224sum", "sha256sum",
    "sha384sum", "sha512sum", "sleep", "sort", "stat", "sum", "tac", "tail", "tee", "test",
    "timeout", "touch", "tr", "true", "uname", "unexpand", "uniq", "wc", "whoami", "xargs", "yes"]

/-- The accounts of every host. -/
def accounts : String :=
  "root:x:0:0:root:/root:/bin/bash\n" ++
  "daemon:x:1:1:daemon:/usr/sbin:/usr/sbin/nologin\n" ++
  "bin:x:2:2:bin:/bin:/usr/sbin/nologin\n" ++
  "sys:x:3:3:sys:/dev:/usr/sbin/nologin\n" ++
  "sync:x:4:65534:sync:/bin:/bin/sync\n" ++
  "games:x:5:60:games:/usr/games:/usr/sbin/nologin\n" ++
  "man:x:6:12:man:/var/cache/man:/usr/sbin/nologin\n" ++
  "lp:x:7:7:lp:/var/spool/lpd:/usr/sbin/nologin\n" ++
  "mail:x:8:8:mail:/var/mail:/usr/sbin/nologin\n" ++
  "news:x:9:9:news:/var/spool/news:/usr/sbin/nologin\n" ++
  "uucp:x:10:10:uucp:/var/spool/uucp:/usr/sbin/nologin\n" ++
  "proxy:x:13:13:proxy:/bin:/usr/sbin/nologin\n" ++
  "www-data:x:33:33:www-data:/var/www:/usr/sbin/nologin\n" ++
  "backup:x:34:34:backup:/var/backups:/usr/sbin/nologin\n" ++
  "nobody:x:65534:65534:nobody:/nonexistent:/usr/sbin/nologin\n"

/-- The rights to a directory that is there on every host. -/
def standardRights (path : Octets) : Nat :=
  if ["/tmp", "/var/tmp", "/dev/shm"].contains path then 1023
  else if path == "/root" then 448
  else if path == "/proc" || path == "/sys" then 365
  else 493

/-- The files of every host. -/
def standardFiles : Files :=
  let put (files : Files) (text : Octets) (rights : Nat) (entry : Entry) : Files :=
    files.put (Path.names text) { entry, rights, changed := standardDate }
  let files := standardDirectories.foldl
    (fun files text => put files text (standardRights text) .directory) {}
  let files :=
    standardLinks.foldl (fun files (text, target) => put files text 511 (.link target)) files
  let files :=
    standardDevices.foldl (fun files (text, device) => put files text 438 (.device device)) files
  let files :=
    standardPrograms.foldl (fun files name => put files ("/usr/bin/" ++ name) 493 .program) files
  let files := put files "/dev/tty" 438 .unavailable
  files.put (Path.names "/etc/passwd")
    { entry := .file, rights := 420, changed := standardDate, content := accounts.toUTF8 }

end Host
end CameraFleet
