import RemainderService.Fault

/-!
# Paths in a tree of files

A path is a list of steps from directory to directory. An empty step and a dot stay where they are,
two dots go up, and a name goes down. **Every step needs a directory to start from**, also one that
stays there, and a name has to be an entry of it; above the root is the root. A path that begins
with a slash starts at the root, and any other at the working directory.
-/

set_option autoImplicit false

namespace RemainderService

/-- A file, or a directory with its entries. -/
inductive FileTree
  | file
  | directory (entries : List (String × FileTree))

namespace FileTree

/-- Walk from here, with the directories above, the nearest first. -/
def walk (above : List FileTree) (here : FileTree) :
    List String → Except SystemFault FileTree
  | [] => .ok here
  | step :: later =>
    match here with
    | .file => .error .notDirectory
    | .directory entries =>
      if step = "" ∨ step = "." then walk above here later
      else if step = ".." then
        match above with
        | [] => walk [] here later
        | parent :: higher => walk higher parent later
      else
        match entries.lookup step with
        | some next => walk (here :: above) next later
        | none => .error .notFound

/-- What a path leads to, from a working directory right below the root. -/
def follow (root working : FileTree) (path : String) : Except SystemFault FileTree :=
  let steps := path.splitOn "/"
  if path.toList.head? = some '/' then walk [] root steps else walk [root] working steps

/-- A directory without entries. -/
def empty : FileTree := .directory []

/-- A directory with empty directories of these names. -/
def shelves (names : List String) : FileTree := .directory (names.map (·, empty))

/-- The devices that every system has. -/
def devices : FileTree :=
  .directory (["null", "zero", "full", "random", "urandom", "tty"].map (·, .file))

/-- The directories and devices that every system has, and nothing else. -/
def standard : FileTree :=
  .directory <|
    [("dev", devices),
      ("usr", shelves ["bin", "lib", "local", "sbin", "share"]),
      ("var", shelves ["cache", "lib", "local", "lock", "log", "opt", "run", "spool", "tmp"])] ++
    ["bin", "boot", "etc", "home", "lib", "media", "mnt", "opt", "proc", "root", "run", "sbin",
      "srv", "sys", "tmp"].map (·, empty)

end FileTree

end RemainderService
