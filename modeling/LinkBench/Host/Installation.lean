import LinkBench.Host.Scheduler
import LinkBench.Host.Shell.Program
import LinkBench.Host.Utility.Account
import LinkBench.Host.Utility.Awk.Command
import LinkBench.Host.Utility.Blocks
import LinkBench.Host.Utility.Canonical
import LinkBench.Host.Utility.Columns
import LinkBench.Host.Utility.Copy
import LinkBench.Host.Utility.Count
import LinkBench.Host.Utility.Date
import LinkBench.Host.Utility.Difference
import LinkBench.Host.Utility.Edit
import LinkBench.Host.Utility.Encode
import LinkBench.Host.Utility.Ends
import LinkBench.Host.Utility.Expression
import LinkBench.Host.Utility.Find
import LinkBench.Host.Utility.Folding
import LinkBench.Host.Utility.Grep
import LinkBench.Host.Utility.Install
import LinkBench.Host.Utility.Move
import LinkBench.Host.Utility.Neighbours
import LinkBench.Host.Utility.Numbering
import LinkBench.Host.Utility.Order
import LinkBench.Host.Utility.Permission
import LinkBench.Host.Utility.Pieces
import LinkBench.Host.Utility.Progression
import LinkBench.Host.Utility.TabStops
import LinkBench.Host.Utility.Touch
import LinkBench.Host.Utility.Translate
/-!
The installation that tools are started on: its programs, and the tree that they lie in.
-/

namespace LinkBench.Host.Installation

open Utility

/-- The programs that print texts, numbers and facts. -/
def printers : List (String × (List String → Proc Nat)) :=
  [("[", test true), ("arch", arch), ("basename", basename), ("date", date), ("dirname", dirname),
    ("echo", echo), ("expr", expr), ("factor", factor), ("false", fun _ => return 1),
    ("groups", groups), ("id", identity), ("logname", logname), ("nproc", nproc), ("printf", printf),
    ("pwd", pwd), ("readlink", readlink), ("realpath", realpath), ("seq", seq), ("sleep", sleep),
    ("sync", sync), ("test", test false), ("true", fun _ => return 0), ("tty", tty),
    ("uname", uname), ("whoami", whoami), ("yes", yes)]

/-- The programs that read texts. -/
def filters : List (String × (List String → Proc Nat)) :=
  [("base32", lettersProgram .base32), ("base64", lettersProgram .base64), ("cat", cat),
    ("cksum", cksum), ("cmp", cmp), ("comm", comm), ("cut", cut), ("dd", dd), ("diff", diff),
    ("egrep", egrep), ("expand", expand), ("fgrep", fgrep), ("fold", fold), ("grep", grep),
    ("head", head),
    ("md5sum", digestProgram "MD5" Digest.md5), ("nl", nl), ("od", od), ("paste", paste),
    ("rev", rev), ("rgrep", rgrep), ("sed", sed), ("sha1sum", digestProgram "SHA1" Digest.sha1),
    ("sha224sum", digestProgram "SHA224" Digest.sha224),
    ("sha256sum", digestProgram "SHA256" Digest.sha256),
    ("sha384sum", digestProgram "SHA384" Digest.sha384),
    ("sha512sum", digestProgram "SHA512" Digest.sha512), ("sort", sort), ("split", split),
    ("sum", sum), ("tac", tac), ("tail", tail), ("tee", tee), ("tr", tr), ("unexpand", unexpand),
    ("uniq", uniq),
    ("wc", wc)]

/-- The programs that treat files by their names. -/
def keepers : List (String × (List String → Proc Nat)) :=
  [("chmod", chmod), ("cp", cp), ("dir", dir), ("install", install), ("link", link), ("ln", ln),
    ("ls", ls), ("mkdir", mkdir), ("mktemp", mktemp), ("mv", mv), ("rm", rm), ("rmdir", rmdir),
    ("stat", stat), ("touch", touch), ("truncate", truncate), ("unlink", unlink), ("vdir", vdir)]

/-- The programs that need nothing of the environment. -/
def utilities : List (String × (List String → Proc Nat)) := printers ++ filters ++ keepers

/-- The programs that start others or ask for the environment. -/
def wrappers : List (String × (List String → Environment → Proc Nat)) :=
  [("awk", awk), ("env", env), ("find", find), ("mawk", awk), ("nice", nice), ("nohup", nohup), ("printenv", printenv),
    ("setsid", setsid), ("stdbuf", stdbuf), ("timeout", timeout), ("which", which),
    ("xargs", xargs)]

def shells : List (String × (List String → Environment → Proc Nat)) :=
  [("sh", Shell.interpreter .plain), ("dash", Shell.interpreter .plain),
    ("bash", Shell.interpreter .extended)]

/-- The bytes of the file of a program: a mark and its name. -/
def fileOf (name : String) : Bytes := Launch.Executable.mark ++ Bytes.ofString name

/-- The program that a file holds. -/
def programs : Programs := fun bytes =>
  if Launch.Executable.isProgram bytes then
    let name := Bytes.toText (bytes.drop Launch.Executable.mark.length)
    (utilities.lookup name).map (fun f arguments _ => f arguments) <|> wrappers.lookup name <|>
      shells.lookup name
  else none

/-! ### The tree -/

/-- The location of an absolute path. -/
def locationOf (path : String) : Location :=
  ((splitAtEach '/' path.toList).filter (· != [])).filterMap fun cs =>
    FileName.ofString? (String.ofList cs)

def directories : List String :=
  ["/bin", "/boot", "/dev", "/dev/fd", "/etc", "/home", "/lib", "/media", "/mnt", "/opt", "/proc",
    "/root", "/run", "/sbin", "/srv", "/sys", "/tmp", "/usr", "/usr/bin", "/usr/lib",
    "/usr/local", "/usr/local/bin", "/usr/local/sbin", "/usr/sbin", "/usr/share", "/var",
    "/var/tmp"]

def devices : List (String × Device) :=
  [("/dev/null", .null), ("/dev/zero", .zero), ("/dev/full", .full),
    ("/dev/stdin", .descriptor 0), ("/dev/stdout", .descriptor 1),
    ("/dev/stderr", .descriptor 2), ("/dev/fd/0", .descriptor 0), ("/dev/fd/1", .descriptor 1),
    ("/dev/fd/2", .descriptor 2), ("/dev/fd/3", .descriptor 3), ("/dev/fd/60", .descriptor 60),
    ("/dev/fd/61", .descriptor 61), ("/dev/fd/62", .descriptor 62),
    ("/dev/fd/63", .descriptor 63)]

/-- Where the programs lie. -/
def programDirectories : List String := ["/bin", "/usr/bin"]

def accounts : String :=
  "root:x:0:0:root:/root:/bin/bash\nnobody:x:65534:65534:nobody:/nonexistent:/usr/sbin/nologin\n"

/-- The tree without any file of a launch. -/
def tree : FileSystem :=
  let put (fs : FileSystem) (path : String) (e : Entry) : FileSystem := fs.put (locationOf path) e
  let fs := directories.foldl (fun fs path => put fs path .directory) .empty
  let fs := devices.foldl (fun fs (path, d) => put fs path (.device d)) fs
  let fs := put fs "/etc/passwd" (.file (.ofString accounts) false)
  let names := utilities.map (·.1) ++ wrappers.map (·.1) ++ shells.map (·.1)
  programDirectories.foldl (fun fs dir =>
    names.foldl (fun fs name => put fs s!"{dir}/{name}" (.file (fileOf name) true)) fs) fs

/-- The directory that a launch works in. -/
def scratch : Location := locationOf "/scratch"

/-- A workspace in an empty directory of the system. -/
def workspace : Workspace := ⟨tree.put scratch .directory, .ofLocation scratch⟩

/-- What programs find in their environment. -/
def environment : Environment :=
  [("PATH", "/usr/local/sbin:/usr/local/bin:/usr/sbin:/usr/bin:/sbin:/bin"), ("HOME", "/root")]

/-- The directories that programs are looked for in. -/
def searchList : List Path :=
  Launch.Executable.searchList ((environment.lookup "PATH").getD "")

end LinkBench.Host.Installation
