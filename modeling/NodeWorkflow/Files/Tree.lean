import NodeWorkflow.Files.Path
import NodeWorkflow.Json.Reader

/-!
# Files

Files and folders without links between them. A path is followed name by name, so that every name
but the last has to be a folder that is there.

## Main definitions

* `FileTree.walk` follows names.
* `FileTree.makeFolder` makes a folder.
* `FileTree.read` gives the bytes of a file, `FileTree.readText` its text and `FileTree.readJson`
  its value.
-/

namespace NodeWorkflow

/-- Files and folders by their places. The folders on the way to a file or a folder are there
too. -/
structure FileTree where
  home : Place
  files : Entries Place (List UInt8)
  folders : List Place

/-- Why a file gives no value. -/
inductive JsonFileFault where
  | file (path : String) (fault : FileFault)
  | text (fault : ReadFault)

def JsonFileFault.message : JsonFileFault → String
  | file path fault => fault.message path
  | text fault => fault.message

namespace FileTree

def nameLimit : Nat := 255

def pathLimit : Nat := 4095

/-- The bytes of the file at a place. -/
def bytesAt? (t : FileTree) (place : Place) : Option (List UInt8) :=
  Entries.get? t.files place

def isFolderAt (t : FileTree) (place : Place) : Bool :=
  (t.home :: t.folders).any place.isPrefixOf ||
    (Entries.keys t.files).any fun file => place.isPrefixOf file && place != file

def isThere (t : FileTree) (place : Place) : Bool :=
  (t.bytesAt? place).isSome || t.isFolderAt place

/-- Follows names from a place. -/
def walk (t : FileTree) : Place → List String → Except FileFault Place
  | here, [] => .ok here
  | here, name :: rest =>
    if (t.bytesAt? here).isSome then .error .notDirectory
    else if name = Path.up then walk t here.dropLast rest
    else if nameLimit < name.utf8ByteSize then .error .nameTooLong
    else if t.isThere (here ++ [name]) then walk t (here ++ [name]) rest
    else .error .missing

def find (t : FileTree) (p : Path) : Except FileFault Place :=
  if pathLimit < p.text.utf8ByteSize then .error .nameTooLong
  else t.walk (p.start t.home) p.names

/-- Whether a path leads to a file. What is not there is no file, but a path that is too long cannot
be looked up at all. -/
def isFile (t : FileTree) (p : Path) : Except FileFault Bool :=
  match t.find p with
  | .ok place => .ok (t.bytesAt? place).isSome
  | .error .nameTooLong => .error .nameTooLong
  | .error _ => .ok false

def isFolder (t : FileTree) (p : Path) : Bool :=
  match t.find p with
  | .ok place => t.isFolderAt place
  | .error _ => false

/-- Goes along names from a place and makes the folders that are not there yet. -/
def makeAlong (t : FileTree) : Place → List String → Except FileFault FileTree
  | here, [] =>
    if (t.bytesAt? here).isSome then .error .present
    else .ok { t with folders := t.folders ++ [here] }
  | here, name :: rest =>
    let made : FileTree := { t with folders := t.folders ++ [here] }
    if (t.bytesAt? here).isSome then .error .notDirectory
    else if name = Path.up then makeAlong made here.dropLast rest
    else if nameLimit < name.utf8ByteSize then .error .nameTooLong
    else makeAlong made (here ++ [name]) rest

/-- Makes the folder to which a path leads, and those on the way. -/
def makeFolder (t : FileTree) (p : Path) : Except FileFault FileTree :=
  if pathLimit < p.text.utf8ByteSize then .error .nameTooLong
  else t.makeAlong (p.start t.home) p.names

/-- The bytes of a file. -/
def read (t : FileTree) (p : Path) : Except FileFault (List UInt8) := do
  match t.bytesAt? (← t.find p) with
  | some bytes => return bytes
  | none => throw .directory

/-- The names in a folder, each once. -/
def namesIn (t : FileTree) (folder : Place) : List String :=
  ((Entries.keys t.files ++ t.folders).filterMap fun place =>
    if folder.isPrefixOf place then place[folder.length]? else none).eraseDups

/-- The text of a file, in UTF-8, with plain line ends; `none` if the bytes are no such text. -/
def readText (t : FileTree) (p : Path) : Except FileFault (Option String) :=
  (t.read p).map fun bytes =>
    (Encoding.utf8Text? bytes).map fun text => String.ofList (unixLines text.toList)

/-- The value in a file. Bytes that are no text are a failure of their own, and so are texts that
are not read although they have no fault. -/
def readJson (t : FileTree) (p : Path) : Except Failure (Except JsonFileFault Json) :=
  match t.readText p with
  | .error fault => .ok (.error (.file p.text fault))
  | .ok none => .error .undecodable
  | .ok (some text) =>
    match Json.read text with
    | .ok v => .ok (.ok v)
    | .error (.fault fault) => .ok (.error (.text fault))
    | .error e => .error e.failure

/-- What is read is a file of the tree. -/
theorem mem_of_read {t : FileTree} {p : Path} {bytes : List UInt8} (h : t.read p = .ok bytes) :
    ∃ place, t.find p = .ok place ∧ t.bytesAt? place = some bytes := by
  cases hf : t.find p with
  | error e => simp [read, hf, bind, Except.bind] at h
  | ok place =>
    refine ⟨place, rfl, ?_⟩
    cases hb : t.bytesAt? place with
    | none => simp [read, hf, hb, bind, Except.bind, throw, throwThe, MonadExceptOf.throw] at h
    | some bs => simp_all [read, bind, Except.bind, pure, Except.pure]

end FileTree

end NodeWorkflow
