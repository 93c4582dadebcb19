import Slipway.Machine.Basic

/-!
# A bare system

The directories, devices and programs that every machine starts with, and the list of what is
below a directory.
-/

namespace Slipway

/-! ## Programs and directories -/

/-- The programs of the system. -/
def toolNames : List String := [
  "[", "arch", "awk", "mawk", "nawk", "b2sum", "base32", "base64", "basename", "bash", "cat", "chgrp", "chmod", "chown", "cksum",
  "cmp", "comm", "cp", "csplit", "cut", "dash", "date", "dd", "diff", "dirname", "echo", "egrep",
  "env", "expand", "expr", "factor", "false", "fgrep", "find", "fmt", "fold", "getopt", "grep",
  "groups", "gunzip", "gzip", "head", "hostname", "id", "install", "join", "link", "ln", "logname", "ls", "md5sum",
  "mkdir", "mktemp", "mv", "nice", "nl", "nohup", "nproc", "numfmt", "od", "paste", "pathchk", "pr",
  "printenv", "printf", "pwd", "rbash", "readlink", "realpath", "rev", "rm", "rmdir", "run-parts", "sed",
  "seq", "setsid", "sh", "sha1sum", "sha224sum", "sha256sum", "sha384sum", "sha512sum", "shuf",
  "sleep", "sort", "split", "stat", "sum", "sync", "tac", "tail", "tar", "tee", "test", "timeout", "touch",
  "tr", "true", "truncate", "tsort", "tty", "uname", "unexpand", "uniq", "unlink", "wc", "which",
  "whoami", "xargs", "yes", "zcat"]

def systemDirectories : List Location := [
  ["usr"], ["usr", "bin"], ["usr", "lib"], ["usr", "local"], ["usr", "local", "bin"],
  ["usr", "sbin"], ["usr", "share"], ["boot"], ["dev"], ["etc"], ["home"], ["media"], ["mnt"],
  ["opt"], ["proc"], ["proc", "self"], ["root"], ["run"], ["srv"], ["sys"], ["tmp"], ["var"],
  ["var", "log"], ["var", "tmp"]]

/-- The users that every system has. -/
def userLines : List String := [
  "root:x:0:0:root:/root:/bin/bash", "daemon:x:1:1:daemon:/usr/sbin:/usr/sbin/nologin",
  "bin:x:2:2:bin:/bin:/usr/sbin/nologin", "sys:x:3:3:sys:/dev:/usr/sbin/nologin",
  "sync:x:4:65534:sync:/bin:/bin/sync", "games:x:5:60:games:/usr/games:/usr/sbin/nologin",
  "man:x:6:12:man:/var/cache/man:/usr/sbin/nologin",
  "lp:x:7:7:lp:/var/spool/lpd:/usr/sbin/nologin",
  "mail:x:8:8:mail:/var/mail:/usr/sbin/nologin",
  "news:x:9:9:news:/var/spool/news:/usr/sbin/nologin",
  "uucp:x:10:10:uucp:/var/spool/uucp:/usr/sbin/nologin",
  "proxy:x:13:13:proxy:/bin:/usr/sbin/nologin",
  "www-data:x:33:33:www-data:/var/www:/usr/sbin/nologin",
  "backup:x:34:34:backup:/var/backups:/usr/sbin/nologin",
  "list:x:38:38:Mailing List Manager:/var/list:/usr/sbin/nologin",
  "irc:x:39:39:ircd:/run/ircd:/usr/sbin/nologin",
  "_apt:x:42:65534::/nonexistent:/usr/sbin/nologin",
  "nobody:x:65534:65534:nobody:/nonexistent:/usr/sbin/nologin"]

def groupLines : List String := [
  "root:x:0:", "daemon:x:1:", "bin:x:2:", "sys:x:3:", "adm:x:4:", "tty:x:5:", "disk:x:6:",
  "lp:x:7:", "mail:x:8:", "news:x:9:", "uucp:x:10:", "man:x:12:", "proxy:x:13:", "kmem:x:15:",
  "dialout:x:20:", "fax:x:21:", "voice:x:22:", "cdrom:x:24:", "floppy:x:25:", "tape:x:26:",
  "sudo:x:27:", "audio:x:29:", "dip:x:30:", "www-data:x:33:", "backup:x:34:", "operator:x:37:",
  "list:x:38:", "irc:x:39:", "src:x:40:", "shadow:x:42:", "utmp:x:43:", "video:x:44:",
  "sasl:x:45:", "plugdev:x:46:", "staff:x:50:", "games:x:60:", "users:x:100:", "nogroup:x:65534:"]

/-- Files that are read by programs, each with its lines. -/
def systemTexts : List (Location × List String) := [
  (["etc", "passwd"], userLines), (["etc", "group"], groupLines),
  (["etc", "hosts"], ["127.0.0.1\tlocalhost", "::1\tlocalhost ip6-localhost ip6-loopback"]),
  (["etc", "hostname"], ["localhost"]),
  (["etc", "shells"], ["# /etc/shells: valid login shells", "/bin/sh", "/usr/bin/sh", "/bin/bash",
    "/usr/bin/bash", "/bin/rbash", "/usr/bin/rbash", "/bin/dash", "/usr/bin/dash"]),
  (["etc", "resolv.conf"], []), (["etc", "fstab"], []), (["etc", "issue"], [])]

/-- The files with their numbers, which count from 1. -/
def systemFiles (now : Int) : List (Location × Node) :=
  systemTexts.zipIdx.map fun ((place, lines), i) =>
    (place, .file { serial := i + 1, mode := newFileMode, modified := now
                    content := Utf8.encode (String.join (lines.map (· ++ "\n"))) })

def systemEntries : List (Location × Node) :=
  systemDirectories.map (fun place => (place, .directory newDirectoryMode))
    ++ toolNames.map (fun name => (["usr", "bin", name], .tool name))
    ++ [(["bin"], .link "usr/bin"), (["lib"], .link "usr/lib"), (["sbin"], .link "usr/sbin"),
      (["dev", "null"], .device .null), (["dev", "zero"], .device .zero),
      (["dev", "full"], .device .full), (["dev", "random"], .device .random),
      (["dev", "urandom"], .device .random), (["dev", "tty"], .device .terminal),
      (["dev", "stdin"], .device .null), (["dev", "stdout"], .device .null),
      (["dev", "stderr"], .device .null)]

/-- A machine with nothing but the system on it and one empty directory, the current one. -/
def Machine.bare (directory : Location) (now : Int) : Machine :=
  let above := ((above directory).drop 1).map
    (fun place => (place, Node.directory newDirectoryMode))
  let entries := systemEntries ++ systemFiles now ++ above.filter
    (fun entry => !systemDirectories.contains entry.1)
  { files := { entries, nextSerial := systemTexts.length + 1 }, directory, now }
where
  /-- A location and those above it, the root first. -/
  above : Location → List Location
    | [] => [[]]
    | name :: rest => [] :: (above rest).map (name :: ·)

/-! ## Listing -/

/-- Names in the order of their characters, directories before what is in them. -/
def locationLe : Location → Location → Bool
  | [], _ => true
  | _ :: _, [] => false
  | x :: xs, y :: ys => if x = y then locationLe xs ys else x < y

/-- What is below a directory, with locations relative to it, in order. -/
def FileSystem.listing (fs : FileSystem) (place : Location) : List (Location × Node) :=
  ((fs.descendants place).map (fun entry => (entry.1.drop place.length, entry.2))).mergeSort
    (fun x y => locationLe x.1 y.1)

end Slipway
