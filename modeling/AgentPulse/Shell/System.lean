import AgentPulse.Shell.Script
import AgentPulse.Files.Tree

/-!
# The system

What there is on the system that commands run on before anything is done: folders, devices, and the
programs by name.
-/

namespace AgentPulse.Shell.System

open Files (Tree Place)

/-- The folder with the programs. -/
def programFolder : Place := [(raw "usr").toBytes, (raw "bin").toBytes]

/-- The folder with the devices. -/
def deviceFolder : Place := [(raw "dev").toBytes]

/-- The folders that a name is looked up in where nothing else is said. -/
def searchPath : Raw := raw "/usr/local/sbin:/usr/local/bin:/usr/sbin:/usr/bin:/sbin:/bin"

/-- The folder of the one who gives commands. -/
def home : Raw := raw "/root"

/-- The folders of users by name. -/
def homes : List (String × String) := [
  ("root", "/root"), ("daemon", "/usr/sbin"), ("bin", "/bin"), ("sys", "/dev"), ("sync", "/bin"),
  ("games", "/usr/games"), ("man", "/var/cache/man"), ("lp", "/var/spool/lpd"),
  ("mail", "/var/mail"), ("news", "/var/spool/news"), ("uucp", "/var/spool/uucp"),
  ("proxy", "/bin"), ("www-data", "/var/www"), ("backup", "/var/backups"), ("list", "/var/list"),
  ("irc", "/run/ircd"), ("nobody", "/nonexistent")]

/-- The folder of the user of a name. -/
def homeOf? (user : Raw) : Option Raw := (homes.lookup (String.ofList user)).map raw

/-- The folders that there are, the outer ones first. -/
def folders : List (List String) := [
  ["dev"], ["etc"], ["home"], ["mnt"], ["opt"], ["proc"], ["root"], ["run"], ["srv"], ["sys"],
  ["tmp"], ["usr"], ["usr", "bin"], ["usr", "lib"], ["usr", "local"], ["usr", "local", "bin"],
  ["usr", "local", "sbin"], ["usr", "sbin"], ["usr", "share"], ["var"], ["var", "tmp"]]

/-- The links that there are. -/
def links : List (String × String) :=
  [("bin", "usr/bin"), ("lib", "usr/lib"), ("sbin", "usr/sbin")]

/-- The devices by name. -/
def devices : List String := ["full", "null", "stderr", "stdin", "stdout", "zero"]

/-- The programs by name. -/
def programs : List String := [
  "[", "awk", "base64", "basename", "cat", "chmod", "cksum", "cmp", "comm", "cp", "cut", "dash",
  "date", "dd", "diff", "dirname", "du", "echo", "egrep", "env", "expand", "expr", "factor",
  "false", "fgrep", "find", "fold", "grep", "head", "hostname", "id", "join", "link", "ln", "ls",
  "mawk", "md5sum", "mkdir", "mktemp", "mv", "nice", "nl", "nohup", "nproc", "od", "paste",
  "printenv", "printf", "pwd", "readlink", "realpath", "rev", "rm", "rmdir", "sed", "seq", "setsid",
  "sh", "sha1sum", "sha224sum", "sha256sum", "sha384sum", "sha512sum", "sleep", "sort", "split",
  "stat", "stdbuf", "sync", "tac", "tail", "tee", "test", "timeout", "touch", "tr", "true",
  "truncate", "tsort", "tty", "uname", "unexpand", "uniq", "unlink", "wc", "which", "whoami",
  "xargs", "yes"]

/-- What the files of programs start with. -/
def magic : Bytes := 0x7F :: (raw "ELF").toBytes

/-- The file of a program. -/
def programFile (name : String) : Files.File :=
  { content := magic ++ (raw name).toBytes, mode := 0o755 }

/-- The time at the start, in thousandths of a second since 1970. -/
def firstTime : Nat := 1735689600000

/-- The system at the start, with a folder for the work that is to be done. -/
def tree (work : Place) : Tree :=
  let mode (path : List String) : Files.Mode := if path = ["tmp"] then 0o1777 else 0o755
  let named (names : List String) : Place := names.map fun n => (raw n).toBytes
  let t : Tree := { now := firstTime }
  let t := folders.foldl (fun t path => t.put (named path) (.folder (mode path))) t
  let t := links.foldl (fun t l => t.put (named [l.1]) (.link (raw l.2).toBytes)) t
  let t := devices.foldl (fun t n => (t.putFile (deviceFolder ++ named [n]) { mode := 0o666 }).2) t
  let t := programs.foldl
    (fun t n => (t.putFile (programFolder ++ named [n]) (programFile n)).2) t
  (List.range work.length).foldl
    (fun t n =>
      let p := work.take (n + 1)
      if (t.find? p).isSome then t else t.put p (.folder Tree.folderMode)) t

/-- The name of the device at a place. -/
def deviceAt? (p : Place) : Option String :=
  match p with
  | [folder, name] =>
    if deviceFolder = [folder] then
      devices.find? fun d => (raw d).toBytes == name
    else none
  | _ => none

/-- The name of the program that a file holds. -/
def programIn? (content : Bytes) : Option String :=
  if magic.isPrefixOf content then
    programs.find? fun n => (raw n).toBytes == content.drop magic.length
  else none

end AgentPulse.Shell.System
