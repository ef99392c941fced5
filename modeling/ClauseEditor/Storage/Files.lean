import ClauseEditor.Language.FileName
import ClauseEditor.Text.Quoted
import ClauseEditor.Text.Utf8

/-!
# Files

The files of one directory tree, by the components of their paths from its
root.  A path is followed one component at a time, and two dots lead back up,
so every component but the last has to be a directory that is there.

A text is handed to the system as bytes that end with a null.  So one with a
null in it names no file, and neither does one with a surrogate, unless the
surrogate stands for a byte that is part of no UTF-8 sequence.
-/

namespace ClauseEditor.Storage

/-- What a path can name. -/
inductive Entry where
  | file (bytes : List UInt8)
  | directory
deriving DecidableEq

/-- Why a text names no file; the system is not even asked then. -/
inductive NameFault where
  | surrogate
  | null
deriving DecidableEq

/-- Why the system does not open a file. -/
inductive FileError where
  | notFound
  | notDirectory
  | isDirectory
deriving DecidableEq

/-- What keeps a file from being opened. -/
inductive Obstacle where
  | noName (fault : NameFault)
  | refused (error : FileError)
deriving DecidableEq

/-- The surrogates that stand for the bytes from 0x80 on. -/
def standsForByte (c : CodePoint) : Bool :=
  0xDC80 ≤ c.val && c.val ≤ 0xDCFF

/-- What is wrong with a name, if anything is. -/
def nameFault? (name : Text) : Option NameFault :=
  if name.any fun c => Utf8.isSurrogate c && !standsForByte c then
    some .surrogate
  else if name.any fun c => c.val = 0 then some .null
  else none

/-- The report of a failure for the path that was given. -/
def FileError.message (error : FileError) (path : Text) : Text :=
  let cause :=
    match error with
    | notFound => "[Errno 2] No such file or directory: "
    | notDirectory => "[Errno 20] Not a directory: "
    | isDirectory => "[Errno 21] Is a directory: "
  Text.ofString cause ++ Text.quoted path

/-- The entries of the tree by their paths. -/
structure Files where
  entries : List (List Text × Entry)
deriving DecidableEq

namespace Files

def empty : Files := ⟨[]⟩

def find? (files : Files) (path : List Text) : Option Entry :=
  (files.entries.find? fun entry => entry.1 = path).map Prod.snd

/-- Whether a path leads to a directory: the root, or one that is there. -/
def isDirectory (files : Files) (path : List Text) : Bool :=
  path = [] || files.find? path = some .directory ||
    files.entries.any fun entry =>
      path.isPrefixOf entry.1 && entry.1 ≠ path

/-- The files with an entry put in, or taken out, at a path. -/
def set (files : Files) (path : List Text) (new? : Option Entry) : Files :=
  let others := files.entries.filter fun entry => entry.1 ≠ path
  match new? with
  | none => ⟨others⟩
  | some entry => ⟨(path, entry) :: others⟩

/-- The path to which components lead from a directory. -/
def follow (files : Files) (here : List Text) :
    List Text → Except FileError (List Text)
  | [] => .ok here
  | part :: rest =>
    if part = Text.ofString ".." then files.follow here.dropLast rest
    else
      let next := here ++ [part]
      if rest = [] ∨ files.isDirectory next then files.follow next rest
      else if (files.find? next).isSome then .error .notDirectory
      else .error .notFound

/-- The path that a name leads to from the root. -/
def locate (files : Files) (name : Text) : Except Obstacle (List Text) :=
  match nameFault? name with
  | some fault => .error (.noName fault)
  | none => (files.follow [] (Language.pathParts name)).mapError .refused

/-- The bytes of a file. -/
def read (files : Files) (name : Text) : Except Obstacle (List UInt8) := do
  let path ← files.locate name
  if files.isDirectory path then throw (.refused .isDirectory)
  match files.find? path with
  | some (.file bytes) => return bytes
  | _ => throw (.refused .notFound)

/-- The path of a file that can be written. -/
def writable (files : Files) (name : Text) : Except Obstacle (List Text) := do
  let path ← files.locate name
  if files.isDirectory path then throw (.refused .isDirectory)
  return path

/-- Gives a file its bytes, whether it is there or not. -/
def write
    (files : Files)
    (name : Text)
    (bytes : List UInt8) :
    Except Obstacle Files := do
  let path ← files.writable name
  return files.set path (some (.file bytes))

end Files

end ClauseEditor.Storage
