import AgentPulse.Shell.Program.Comparing
import AgentPulse.Shell.Program.Content
import AgentPulse.Shell.Program.Digests
import AgentPulse.Shell.Program.Editing
import AgentPulse.Shell.Program.Matching
import AgentPulse.Shell.Program.Pieces
import AgentPulse.Shell.Program.Rows
import AgentPulse.Shell.Program.Sorting
import AgentPulse.Shell.Program.Starting
import AgentPulse.Shell.Program.Surroundings

/-!
# Programs by name
-/

namespace AgentPulse.Shell.Program

open Text

/-- The programs that work on files and folders. -/
def onFiles : List (String × (List Raw → Act Nat)) := [
  ("chmod", chmod), ("cp", cp), ("dd", dd), ("du", du), ("link", link), ("ln", ln), ("ls", ls),
  ("mkdir", mkdir), ("mktemp", mktemp), ("mv", mv), ("readlink", readlink),
  ("realpath", realpath), ("rm", rm), ("rmdir", rmdir), ("split", split), ("stat", stat),
  ("touch", touch), ("truncate", truncate), ("unlink", unlink)]

/-- The programs that work on texts. -/
def onTexts : List (String × (List Raw → Act Nat)) := [
  ("base64", base64), ("cat", cat), ("cmp", cmp), ("comm", comm), ("cut", cut), ("diff", diff),
  ("egrep", grep .extended "grep"), ("expand", expandTabs), ("fgrep", grep .fixed "grep"),
  ("fold", fold), ("grep", grep .basic "grep"), ("head", head), ("join", join), ("nl", nl),
  ("od", od), ("paste", paste), ("rev", rev), ("sed", sed), ("sort", sort), ("tac", tac),
  ("tail", tail), ("tee", tee), ("tr", tr), ("tsort", tsort), ("unexpand", unexpand),
  ("uniq", uniq), ("wc", wc)]

/-- The programs that show digests. -/
def onDigests : List (String × (List Raw → Act Nat)) := [
  ("cksum", cksum), ("md5sum", digests "md5sum" Digest.md5),
  ("sha1sum", digests "sha1sum" Digest.sha1), ("sha224sum", digests "sha224sum" Digest.sha224),
  ("sha256sum", digests "sha256sum" Digest.sha256),
  ("sha384sum", digests "sha384sum" Digest.sha384),
  ("sha512sum", digests "sha512sum" Digest.sha512)]

/-- The programs that work on their arguments alone. -/
def onArguments : List (String × (List Raw → Act Nat)) := [
  ("[", bracketTest), ("basename", basename), ("date", date), ("dirname", dirname),
  ("echo", echo), ("expr", expr), ("factor", factor), ("false", ending 1),
  ("hostname", showing "localhost"), ("id", id), ("nproc", showing "1"), ("printenv", printenv),
  ("printf", printf), ("pwd", pwd), ("seq", seq), ("sleep", sleep), ("sync", ending 0),
  ("test", test), ("true", ending 0), ("tty", tty), ("uname", uname), ("which", which),
  ("whoami", whoami), ("yes", yes)]

/-- The programs that start others. -/
def onPrograms : List (String × (Launch → List Raw → Act Ending)) := [
  ("awk", awk), ("env", env), ("find", find), ("mawk", awk), ("nice", nice), ("nohup", nohup),
  ("setsid", setsid), ("stdbuf", stdbuf), ("timeout", timeout), ("xargs", xargs)]

/-- The program of a name. -/
def ofName? (name : String) : Option Program :=
  match (onFiles ++ onTexts ++ onDigests ++ onArguments).lookup name with
  | some work => some (.plain work)
  | none => (onPrograms.lookup name).map .starting

end AgentPulse.Shell.Program
