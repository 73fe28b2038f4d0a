import BundleForge.Shell.System

/-!
What every system has: directories, devices and programs. A program is a file that starts with a sign and
holds the name of the program, so that a copy of it, or a link to it, is the same program. Main
statements: the file of a program is known for it, and what stands in a tree already stays as it is.
-/

namespace BundleForge.Shell.Surroundings

/-- What the file of a program starts with. -/
def sign : List UInt8 := [0x7f, 0x45, 0x4c, 0x46]

/-- The file of a program. -/
def programFile (name : String) : List UInt8 := sign ++ 0 :: Text.Utf8.encode name

/-- The program that a file holds. -/
def programIn? (content : List UInt8) : Option String :=
  if (sign ++ [0]).isPrefixOf content then (Text.Utf8.decode (content.drop 5)).toOption else none

/-- The shell of the system, which its programs are files for. -/
def shellName : String := "dash"

theorem programIn?_programFile : programIn? (programFile shellName) = some shellName := by decide +kernel

/-- The programs of the system. -/
def programs : List String := [
  "[", "base64", "basename", "cat", "chmod", "chown", "clear", "cmp", "cp", "cut", "dash", "dirname",
  "echo", "egrep", "env", "expr", "false", "fgrep", "find", "fold", "grep", "head", "id", "kill", "link",
  "ln", "ls", "mkdir", "mktemp", "mv", "nice", "nl", "nohup", "od", "paste", "printenv", "printf", "pwd",
  "readlink", "realpath", "rev", "rm", "rmdir", "sed", "seq", "setsid", "sleep", "sort", "stat", "sync",
  "tac", "tail", "tee", "test", "timeout", "touch", "tr", "true", "uname", "uniq", "unlink", "wc",
  "which", "whoami", "xargs", "yes"]

/-- The users of the system: each with a number for it and one for its group, what it is for, and its
home. -/
def users : List (String × Nat × Nat × String × String) := [
  ("root", 0, 0, "root", "/root"), ("daemon", 1, 1, "daemon", "/usr/sbin"), ("bin", 2, 2, "bin", "/bin"),
  ("sys", 3, 3, "sys", "/dev"), ("sync", 4, 65534, "sync", "/bin"), ("games", 5, 60, "games", "/usr/games"),
  ("man", 6, 12, "man", "/var/cache/man"), ("lp", 7, 7, "lp", "/var/spool/lpd"),
  ("mail", 8, 8, "mail", "/var/mail"), ("news", 9, 9, "news", "/var/spool/news"),
  ("uucp", 10, 10, "uucp", "/var/spool/uucp"), ("proxy", 13, 13, "proxy", "/bin"),
  ("www-data", 33, 33, "www-data", "/var/www"), ("backup", 34, 34, "backup", "/var/backups"),
  ("list", 38, 38, "Mailing List Manager", "/var/list"), ("irc", 39, 39, "ircd", "/run/ircd"),
  ("_apt", 42, 65534, "", "/nonexistent"), ("nobody", 65534, 65534, "nobody", "/nonexistent")]

/-- The home of a user. -/
def homeOf? (user : String) : Option String := (users.lookup user).map fun u => u.2.2.2

/-- The list of users, a line for each. -/
def userList : String := String.join (users.map fun (name, number, group, purpose, home) =>
  let program := if name = "root" then "/bin/bash" else if name = "sync" then "/bin/sync"
    else "/usr/sbin/nologin"
  ":".intercalate [name, "x", toString number, toString group, purpose, home, program] ++ "\n")

def directory (names : List String) : Node := .dir (names.map fun name => (name, .dir []))

/-- What stands at the top. -/
def entries : List (String × Node) := [
  ("bin", .link "usr/bin"), ("boot", .dir []),
  ("dev", .dir ([("fd", .dir [])] ++ ["full", "null", "random", "stderr", "stdin", "stdout", "tty",
    "urandom", "zero"].map fun name => (name, .file []))),
  ("etc", .dir [("passwd", .file (Text.Utf8.encode userList))]),
  ("home", .dir []), ("lib", .link "usr/lib"), ("lib64", .link "usr/lib64"), ("media", .dir []),
  ("mnt", .dir []), ("opt", .dir []), ("proc", .dir []), ("root", .dir []), ("run", .dir []),
  ("sbin", .link "usr/sbin"), ("srv", .dir []), ("sys", .dir []), ("tmp", .dir []),
  ("usr", .dir [
    ("bin", .dir ((programs.map fun name => (name, .file (programFile name))) ++ [("sh", .link "dash")])),
    ("games", .dir []), ("include", .dir []), ("lib", .dir []), ("lib64", .dir []), ("libexec", .dir []),
    ("local", directory ["bin", "etc", "games", "include", "lib", "sbin", "share", "src"]),
    ("sbin", .dir []), ("share", .dir []), ("src", .dir [])]),
  ("var", directory ["backups", "cache", "lib", "local", "log", "mail", "opt", "spool", "tmp"])]

/-- A tree with what every system has, unless something else stands in its place. -/
def surround (t : Tree) : Tree :=
  match t.top with
  | .dir present => { t with
      top := .dir (present ++ entries.filter fun e => (present.lookup e.1).isNone) }
  | _ => t

theorem lookup_append_of_some {present others : List (String × Node)} {name : String} {n : Node}
    (h : present.lookup name = some n) : (present ++ others).lookup name = some n := by
  rw [List.lookup_append, h]
  rfl

theorem child_surround {t : Tree} {name : String} {n : Node} (h : t.top.child? name = some n) :
    (surround t).top.child? name = some n := by
  unfold surround
  split
  · rename_i present e
    rw [e] at h
    exact lookup_append_of_some h
  · exact h

end BundleForge.Shell.Surroundings
