import ArtifactTools.Host.FileTree

/-! The usual places of a system: its directories, the programs that come with it, and its devices. -/

namespace ArtifactTools.FileTree

def place (path : String) : Location :=
  (Path.segments (Utf8.encode path)).filter fun name => !name.isEmpty

def usualDirectories : List String :=
  ["/boot", "/dev", "/etc", "/home", "/media", "/mnt", "/opt", "/proc", "/proc/self", "/proc/self/fd",
    "/root", "/run", "/srv", "/sys", "/tmp", "/usr", "/usr/bin", "/usr/lib", "/usr/local",
    "/usr/local/bin", "/usr/sbin", "/usr/share", "/var", "/var/tmp"]

def usualLinks : List (String × String) :=
  [("/bin", "usr/bin"), ("/dev/fd", "/proc/self/fd"), ("/dev/stderr", "/proc/self/fd/2"),
    ("/dev/stdin", "/proc/self/fd/0"), ("/dev/stdout", "/proc/self/fd/1"), ("/lib", "usr/lib"),
    ("/sbin", "usr/sbin"), ("/usr/bin/sh", "dash")]

def usualPrograms : List (String × NativeProgram) :=
  [("dash", .shell false), ("bash", .shell true), ("[", .test true), ("arch", .tell "x86_64"),
    ("b2sum", .digest "BLAKE2b"), ("basename", .baseName), ("cat", .concatenate),
    ("chmod", .changeMode), ("cksum", .checksum), ("cmp", .compareOctets), ("comm", .common),
    ("cp", .copy), ("cut", .cut), ("date", .date), ("dirname", .directoryName), ("echo", .echo),
    ("egrep", .search (some 'E')), ("env", .environment), ("expand", .expand), ("expr", .calculate),
    ("false", .fail), ("fgrep", .search (some 'F')), ("fold", .fold), ("grep", .search none),
    ("groups", .groups), ("head", .head), ("hostname", .hostName), ("id", .identity),
    ("install", .install), ("join", .join), ("link", .linkPlainly), ("ln", .link),
    ("logname", .loginName), ("ls", .list), ("md5sum", .digest "MD5"), ("mkdir", .makeDirectories),
    ("mkfifo", .makePipes), ("mknod", .makeNode), ("mktemp", .makeTemporary), ("mv", .move),
    ("nice", .runNicely), ("nl", .numberLines), ("nohup", .runDetached), ("nproc", .processors),
    ("paste", .paste), ("printenv", .printVariables), ("printf", .format),
    ("pwd", .workingDirectory), ("readlink", .readLink), ("realpath", .realPath), ("rev", .reverse),
    ("rm", .remove), ("rmdir", .removeDirectories), ("seq", .count), ("setsid", .runInGroup),
    ("sha1sum", .digest "SHA1"), ("sha224sum", .digest "SHA224"), ("sha256sum", .digest "SHA256"),
    ("sha384sum", .digest "SHA384"), ("sha512sum", .digest "SHA512"), ("sleep", .sleep),
    ("sort", .sort), ("stat", .status), ("stdbuf", .runBuffered), ("sum", .sum),
    ("tac", .reverseLines), ("tail", .tail), ("tee", .tee), ("test", .test false),
    ("timeout", .limitTime), ("touch", .touch), ("tr", .translate), ("true", .succeed),
    ("truncate", .truncate), ("tty", .terminal), ("uname", .system), ("uniq", .unique),
    ("unlink", .unlink), ("wc", .countWords), ("which", .which), ("whoami", .tell "root"),
    ("yes", .repeatLine)]

def usualDevices : List (String × Device) :=
  [("/dev/full", .full), ("/dev/null", .sink), ("/dev/random", .random), ("/dev/urandom", .random),
    ("/dev/zero", .zeros)]

/-- The time of all that is there from the beginning, in millionths of a second since the beginning
of all counting. -/
def startTime : Nat := 1750000000 * 1000000

def usual : FileTree where
  nodes :=
    usualDirectories.map (fun name => (place name, Node.directory programMode)) ++
      usualLinks.map (fun (name, target) => (place name, Node.link (Utf8.encode target))) ++
      usualPrograms.map (fun (name, program) =>
        (place ("/usr/bin/" ++ name), Node.native program)) ++
      usualDevices.map fun (name, device) => (place name, Node.device device)
  files := []
  now := startTime

end ArtifactTools.FileTree
