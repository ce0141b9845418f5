/-!
# Files of a folder

A folder holds files and no further folders. A path starts from it, or behind a slash from the
root, and each of its names leads on from a folder. Of all that lies outside only the usual
folders of the root are known, and the empty device.
-/

namespace GroupRoles

/-- Why a file cannot be read. -/
inductive FileFault where
  | missing
  | isFolder
  | noFolder
  | tooLong
  | zeroByte
  | noText
  | other (text : String)
deriving Repr, DecidableEq

/-- The text of a fault. -/
def FileFault.message : FileFault → String
  | missing => "No such file or directory (os error 2)"
  | isFolder => "Is a directory (os error 21)"
  | noFolder => "Not a directory (os error 20)"
  | tooLong => "File name too long (os error 36)"
  | zeroByte => "file name contained an unexpected NUL byte"
  | noText => "stream did not contain valid UTF-8"
  | other text => text

/-- The bytes of a file. -/
abbrev FileContent := Except FileFault (List UInt8)

/-- The files of a folder. -/
abbrev Folder := List (String × List UInt8)

namespace Folder

/-- How many bytes a name in a path may have. -/
def maxName : Nat := 255

/-- How many bytes a path may have. -/
def maxPath : Nat := 4095

/-- The folders that every root has. -/
def rootFolders : List String :=
  ["bin", "boot", "dev", "etc", "home", "lib", "media", "mnt", "opt", "proc", "root", "run",
    "sbin", "srv", "sys", "tmp", "usr", "var"]

/-- Where a path leads. -/
inductive Spot where
  /-- The folder that paths start from. -/
  | here
  /-- A folder around it. -/
  | around
  | root
  /-- A folder of the root. -/
  | usual (name : String)
  | file (bytes : List UInt8)
deriving Repr, DecidableEq

/-- What a name stands for in a folder. -/
def Spot.lookup? (folder : Folder) (name : String) : Spot → Option Spot
  | here => if name = ".." then some around else (List.lookup name folder).map file
  | around => if name = ".." then some around else none
  | root =>
    if name = ".." then some root
    else if rootFolders.contains name then some (usual name)
    else none
  | usual place =>
    if name = ".." then some root
    else if place = "dev" && name = "null" then some (file [])
    else none
  | file _ => none

/-- Goes on by one name of a path; an empty name and `.` stay where they are. -/
def Spot.go (folder : Folder) (spot : Spot) (name : String) : Except FileFault Spot :=
  match spot with
  | file _ => throw .noFolder
  | _ =>
    if name = "" || name = "." then pure spot
    else if maxName < name.utf8ByteSize then throw .tooLong
    else
      match spot.lookup? folder name with
      | some next => pure next
      | none => throw .missing

/-- The bytes that a path leads to. -/
def read (folder : Folder) (path : String) : FileContent :=
  if path.toList.contains '\x00' then throw .zeroByte
  else if maxPath < path.utf8ByteSize then throw .tooLong
  else if path.isEmpty then throw .missing
  else do
    let start := if path.startsWith "/" then Spot.root else .here
    match ← (path.splitOn "/").foldlM (Spot.go folder) start with
    | .file bytes => pure bytes
    | _ => throw .isFolder

end Folder

end GroupRoles
