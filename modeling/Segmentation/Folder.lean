import Segmentation.Path
import Segmentation.Text.Quoted
import Segmentation.Text.Utf8

/-!
# Folders

A folder is known by what the paths that start in it lead to. For a folder that is given by its
files, paths are followed name by name: folders are there because files are in them, a double dot
leads back to the folder that was really passed, and a path through a file leads nowhere.
-/

namespace Segmentation

/-- Why a path does not lead to a file. -/
inductive FileProblem where
  | missing
  | isFolder
  /-- The path leads through a file. -/
  | throughFile
  /-- A folder is wanted where a file is. -/
  | taken
  /-- A name, or the path as a whole, is longer than names and paths may be. -/
  | nameTooLong
  /-- The path holds a null character. -/
  | nullCharacter
  deriving DecidableEq, Repr

/-- A path that cannot be used. -/
structure FileFault where
  problem : FileProblem
  path : Path
  deriving DecidableEq, Repr

/-- The wording of a fault. -/
def FileFault.message (fault : FileFault) : Text :=
  let unusable (reason : String) : Text := reason.toList ++ fault.path.toText.quoted
  match fault.problem with
  | .missing => unusable "[Errno 2] No such file or directory: "
  | .isFolder => unusable "[Errno 21] Is a directory: "
  | .throughFile => unusable "[Errno 20] Not a directory: "
  | .taken => unusable "[Errno 17] File exists: "
  | .nameTooLong => unusable "[Errno 36] File name too long: "
  | .nullCharacter => "embedded null byte".toList

/-- A folder, by what is found at each path. -/
structure Folder where
  find : Path → Except FileProblem (List UInt8)

/-! ## Paths that no folder has -/

/-- Whether a name has more than 255 bytes. -/
def isLongName (name : Text) : Bool :=
  255 < name.utf8Length

/-- Whether a path has more than 4095 bytes. -/
def isLongPath (path : Path) : Bool :=
  4095 < path.toText.utf8Length

/-! ## Folders from their files -/

/-- Files by the names that lead to them. -/
abbrev FileList := List (List Text × List UInt8)

namespace FileList

/-- Whether names lead to a folder. -/
def isFolder (files : FileList) (names : List Text) : Bool :=
  names.isEmpty || files.any fun file => names.isPrefixOf file.1 && names != file.1

/-- Where names lead from the folder that the names in `passed` lead to. -/
def follow (files : FileList) (passed : List Text) : List Text → Except FileProblem (List Text)
  | [] => .ok passed
  | name :: rest =>
      if !files.isFolder passed then .error .throughFile
      else if name == "..".toList then
        if passed.isEmpty then .error .missing else follow files passed.dropLast rest
      else if isLongName name then .error .nameTooLong
      else
        let next := passed ++ [name]
        if files.isFolder next || (files.lookup next).isSome then follow files next rest
        else .error .missing

/-- What is found at a path. Nothing outside the folder is. -/
def find (files : FileList) (path : Path) : Except FileProblem (List UInt8) :=
  if path.toText.elem '\x00' then .error .nullCharacter
  else if isLongPath path then .error .nameTooLong
  else if !path.root.isEmpty then
    match path.names with
    | [] => .error .isFolder
    | name :: _ => .error (if isLongName name then .nameTooLong else .missing)
  else do
    let names ← files.follow [] path.names
    match files.lookup names with
    | some bytes => .ok bytes
    | none => .error .isFolder

end FileList

namespace Folder

/-- The folder that holds the given files and no others. -/
def ofFiles (files : List (Path × List UInt8)) : Folder where
  find := FileList.find (files.map fun (path, bytes) => (path.names, bytes))

/-! ## Reading and creating files -/

/-- The bytes of the file at a path. -/
def read (folder : Folder) (path : Path) : Except FileFault (List UInt8) :=
  (folder.find path).mapError (⟨·, path⟩)

/-- Whether a file is at a path. -/
def isFile (folder : Folder) (path : Path) : Bool :=
  (folder.find path).isOk

/-- The text of the file at a path. Bytes that encode nothing are passed over, and all line breaks
become newlines. -/
def readText (folder : Folder) (path : Path) : Except FileFault Text :=
  (folder.read path).map fun bytes => (Text.decodeUtf8Leniently bytes).unifyNewlines

/-- The problem of making the folders that lead to a path. -/
def wayFault? (folder : Folder) (path : Path) : Option FileFault :=
  match folder.find path with
  | .ok _ => some ⟨.taken, path⟩
  | .error .isFolder => none
  | .error .missing =>
      let long := path.names.dropWhile (!isLongName ·)
      if long.isEmpty then none
      else
        let passed := path.names.length - long.length + 1
        some ⟨.nameTooLong, { path with names := path.names.take passed }⟩
  | .error problem => some ⟨problem, path⟩

/-- The folder after an empty file has been put at a path, with the folders that lead to it. Double
dots in the path are resolved by its spelling. -/
def create (folder : Folder) (path : Path) : Except FileFault Folder :=
  let target := path.resolved
  match folder.wayFault? path.parent, folder.find target with
  | some fault, _ => .error fault
  | none, .error .isFolder => .error ⟨.isFolder, target⟩
  | none, .error .nameTooLong => .error ⟨.nameTooLong, target⟩
  | none, _ =>
      if isLongName target.name then .error ⟨.nameTooLong, target⟩
      else .ok ⟨fun other => if other = target then .ok [] else folder.find other⟩

end Folder

end Segmentation
