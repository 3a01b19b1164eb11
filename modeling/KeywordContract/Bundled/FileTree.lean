import KeywordContract.Bundled.Host

/-!
# File trees

The files of a host held in memory: they stand for the file system of a machine where a keyword is
run without one. A path is followed name by name, from the root or from the working directory, as a
Unix system does it.

## Main definitions

* `FileTree`: directories and files by their places in the tree.
* `FileTree.unix`: what every tree holds.
* `FileTree.ofList`: a tree with files in its working directory.
* `FileTree.read?`: the text of the file at a path.
-/

namespace KeywordContract

/-- The names on the way from the root to a file or directory. -/
abbrev Place := List String

structure FileTree where
  /-- The directories that are there also without a file in them. -/
  directories : List Place
  files : List (Place × ByteArray)
  /-- Where relative paths start. -/
  working : Place

namespace FileTree

/-- The names in a path. -/
def pathNames (path : String) : List String :=
  (path.toList.splitOn '/').map String.ofList

/-- Names that lead nowhere else. -/
def isIdle (name : String) : Bool := name = "" || name = "."

/-- The directories of a Linux system by the Filesystem Hierarchy Standard. -/
def standardDirectories : List Place :=
  ["bin", "boot", "dev", "etc", "home", "lib", "media", "mnt", "opt", "proc", "root", "run",
    "sbin", "srv", "sys", "tmp", "usr/bin", "usr/lib", "usr/local", "usr/sbin", "usr/share",
    "var/cache", "var/lib", "var/local", "var/lock", "var/log", "var/opt", "var/run",
    "var/spool", "var/tmp"].map pathNames

/-- A Unix system without files of anybody. The null device is a file that is always empty. The
working directory has no name, so that paths lead out of it but not into it. -/
def unix : FileTree :=
  { directories := standardDirectories
    files := [(["dev", "null"], .empty)]
    working := ["tmp", ""] }

/-- Files in the working directory, by relative paths. -/
def ofList (files : List (String × ByteArray)) : FileTree :=
  { unix with
    files := unix.files ++ files.map fun (path, bytes) =>
      (unix.working ++ (pathNames path).filter (!isIdle ·), bytes) }

/-- Whether there is a directory at a place. All places on the way to a file or directory, and
to the working directory, are directories. -/
def isDirectory (t : FileTree) (place : Place) : Bool :=
  (t.working :: t.directories ++ t.files.map Prod.fst).any place.isPrefixOf

/-- The longest name and the longest path, in bytes, the end of the path counted. -/
def maxName : Nat := 255
def maxPath : Nat := 4096

/-- Follows names from a directory. A file ends the way, and above the root is the root. -/
def walk (t : FileTree) (place : Place) : List String → Except FileError String
  | [] => .error .isDirectory
  | name :: rest =>
    if isIdle name then t.walk place rest
    else if name = ".." then t.walk place.dropLast rest
    else if name.utf8ByteSize > maxName then .error .nameTooLong
    else
      let here := place ++ [name]
      match t.files.lookup here with
      | some bytes => if rest.isEmpty then decodeText bytes else .error .notDirectory
      | none => if t.isDirectory here then t.walk here rest else .error .notFound

/-- The text of the file at a path. -/
def read? (t : FileTree) (path : String) : Except FileError String :=
  if path.toList.contains '\x00' then .error .nulInName
  else if path.utf8ByteSize ≥ maxPath then .error .nameTooLong
  else if path = "" then .error .notFound
  else t.walk (if path.startsWith "/" then [] else t.working) (pathNames path)

end FileTree

end KeywordContract
