import ChipEight.Display.Png
import ChipEight.Files.Fault
import ChipEight.Files.Path

namespace ChipEight

/-!
# Folders in memory

A folder stands at a location and holds documents and further folders, each at
the list of names that leads to it.  Paths are resolved part by part: every
part but the last has to lead to a folder that exists.  A path may leave the
folder, but of what lies outside only the enclosing folders exist, and what
every system has.
-/

/-- What a file holds: bytes, lines of text with the newest first, or an
image. -/
inductive Document where
  | bytes (content : List UInt8)
  | lines (newestFirst : List String)
  | image (content : Image)

namespace Document

/-- Lines of text, oldest first, each with its line end. -/
def textOfLines (newestFirst : List String) : String :=
  newestFirst.reverse.foldl (fun text line => text ++ line ++ "\n") ""

/-- The bytes of a document. -/
def content : Document → List UInt8
  | .bytes content => content
  | .lines newestFirst => (textOfLines newestFirst).toUTF8.toList
  | .image content => Png.encode content

/-- Add a line to a document of text. -/
def addLine (line : String) : Document → Document
  | .lines newestFirst => .lines (line :: newestFirst)
  | other => other

end Document

/-- A folder at its location, with documents and further folders by the names
that lead to them from it. -/
structure Folder where
  location : Place
  documents : List (List String × Document)
  folders : List (List String)

namespace Folder

/-- The longest name of a file, in bytes. -/
def nameLimit : Nat := 255

/-- The longest path, in bytes. -/
def pathLimit : Nat := 4095

/-- The folders that every system has. -/
def commonFolders : List Place :=
  [["boot"], ["dev"], ["dev", "pts"], ["dev", "shm"], ["etc"],
    ["etc", "default"], ["etc", "init.d"], ["etc", "opt"],
    ["etc", "profile.d"], ["etc", "skel"], ["home"], ["media"], ["mnt"],
    ["opt"], ["proc"], ["proc", "self"], ["proc", "self", "fd"],
    ["proc", "sys"], ["root"], ["run"], ["run", "lock"], ["srv"], ["sys"],
    ["sys", "block"], ["sys", "bus"], ["sys", "class"], ["sys", "dev"],
    ["sys", "devices"], ["sys", "fs"], ["sys", "kernel"], ["sys", "module"],
    ["tmp"], ["usr"], ["usr", "bin"], ["usr", "games"], ["usr", "include"],
    ["usr", "lib"], ["usr", "lib64"], ["usr", "libexec"], ["usr", "local"],
    ["usr", "local", "bin"], ["usr", "local", "etc"],
    ["usr", "local", "games"], ["usr", "local", "include"],
    ["usr", "local", "lib"], ["usr", "local", "sbin"],
    ["usr", "local", "share"], ["usr", "local", "src"], ["usr", "sbin"],
    ["usr", "share"], ["usr", "share", "doc"], ["usr", "share", "man"],
    ["usr", "src"], ["var"], ["var", "backups"], ["var", "cache"],
    ["var", "lib"], ["var", "local"], ["var", "log"], ["var", "mail"],
    ["var", "opt"], ["var", "spool"], ["var", "tmp"]]

/-- The documents that every system has: one that is always empty. -/
def commonDocuments : List (Place × Document) :=
  [(["dev", "null"], .bytes [])]

/-- The path that leads to a folder. -/
def path (folder : Folder) : String :=
  "/" ++ "/".intercalate folder.location

/-- The names that lead to a place from a folder, if the place is inside. -/
def namesTo? (folder : Folder) (place : Place) : Option (List String) :=
  if folder.location.isPrefixOf place then
    some (place.drop folder.location.length)
  else none

/-- The links that every system has.  Two of them lead to the folder that
relative paths start from, and to the root. -/
def links (folder : Folder) : List (Place × Place) :=
  [(["bin"], ["usr", "bin"]), (["lib"], ["usr", "lib"]),
    (["lib64"], ["usr", "lib64"]), (["sbin"], ["usr", "sbin"]),
    (["dev", "fd"], ["proc", "self", "fd"]),
    (["proc", "self", "cwd"], folder.location), (["proc", "self", "root"], []),
    (["var", "lock"], ["run", "lock"]), (["var", "run"], ["run"])]

/-- Where a place is if it is that of a link, and else the place itself. -/
def target (folder : Folder) (place : Place) : Place :=
  (folder.links.lookup place).getD place

/-- Why no document can be made at a place, if the system keeps it for its own
reports.  Names are not measured there. -/
def reserved? : Place → Option FileFault
  | "proc" :: _ => some .missing
  | "sys" :: _ => some .denied
  | _ => none

/-- The document at a place. -/
def document? (folder : Folder) (place : Place) : Option Document :=
  match folder.namesTo? place with
  | some names => folder.documents.lookup names
  | none => commonDocuments.lookup place

/-- Whether names lead to a folder inside a folder.  What leads to a folder or
to a document leads through folders. -/
def holdsFolder (folder : Folder) (names : List String) : Bool :=
  (folder.folders.any fun inner => names.isPrefixOf inner) ||
    (folder.documents.any fun entry =>
      names.isPrefixOf entry.1 && names.length < entry.1.length)

/-- Whether there is a folder at a place. -/
def isFolder (folder : Folder) (place : Place) : Bool :=
  place.isPrefixOf folder.location || commonFolders.contains place ||
    (folder.namesTo? place).any folder.holdsFolder

/-- Why a place cannot be entered, if it is no folder. -/
def barrier? (folder : Folder) (place : Place) : Option FileFault :=
  if folder.isFolder place then none
  else if (folder.document? place).isSome then some .notFolder
  else some .missing

/-- Whether a name is too long for the folder at a place. -/
def isTooLong (place : Place) (name : String) : Bool :=
  nameLimit < name.utf8ByteSize && (reserved? place).isNone

/-- Follow the parts of a path from a place. -/
def follow (folder : Folder) (place : Place) :
    List String → Except FileFault Place
  | [] => .ok place
  | part :: rest =>
      match folder.barrier? place with
      | some fault => .error fault
      | none =>
          if isTooLong place part then .error .tooLong
          else folder.follow (folder.target (place.step part)) rest

/-- The place at which the resolution of a path starts. -/
def origin (folder : Folder) (path : String) : Place :=
  if Path.isAbsolute path then [] else folder.location

/-- What is wrong with a path before it is resolved. -/
def refusal? (path : String) : Option FileFault :=
  if path.contains (Char.ofNat 0) then some .zeroInPath
  else if path = "" then some .missing
  else if pathLimit < path.utf8ByteSize then some .tooLong
  else none

/-- Read the document that a path leads to. -/
def read (folder : Folder) (path : String) :
    Except FileFault (List UInt8) :=
  match refusal? path with
  | some fault => .error fault
  | none =>
  match folder.follow (folder.origin path) (Path.parts path) with
  | .error fault => .error fault
  | .ok place =>
      if folder.isFolder place then .error .isFolder
      else
        match folder.document? place with
        | some document => .ok document.content
        | none => .error .missing

/-- The parts of a path that lead to its last name, that name, and whether
slashes follow it.  The parts are given with the last one first. -/
def splitLast : List String → List String × String × Bool
  | [] => ([], "", false)
  | "" :: rest =>
      let (lead, name, _) := splitLast rest
      (lead, name, true)
  | name :: rest => (rest, name, false)

/-- The place of a document with a name in the folder at a place.  A name that
slashes follow can only be a folder's, whatever it is. -/
def writableIn (folder : Folder) (place : Place) (name : String)
    (slashes : Bool) : Except FileFault Place :=
  if slashes ∨ place.step name ≠ place ++ [name] then .error .isFolder
  else if isTooLong place name then .error .tooLong
  else
    let found := folder.target (place ++ [name])
    if folder.isFolder found then .error .isFolder
    else
      match reserved? found with
      | some fault => .error fault
      | none => .ok found

/-- The place where a path allows a document to be written. -/
def writable (folder : Folder) (path : String) : Except FileFault Place :=
  match refusal? path with
  | some fault => .error fault
  | none =>
      let (lead, name, slashes) := splitLast (Path.parts path).reverse
      match folder.follow (folder.origin path) lead.reverse with
      | .error fault => .error fault
      | .ok place =>
          match folder.barrier? place with
          | some fault => .error fault
          | none => folder.writableIn place name slashes

/-- Put a document at a place.  Outside the folder nothing is kept. -/
def put (folder : Folder) (place : Place) (document : Document) : Folder :=
  match folder.namesTo? place with
  | some names =>
      { folder with
        documents :=
          (names, document) ::
            folder.documents.filter fun entry => entry.1 ≠ names }
  | none => folder

/-- Change the document at a place. -/
def modify (folder : Folder) (place : Place)
    (change : Document → Document) : Folder :=
  match folder.namesTo? place with
  | some names =>
      { folder with
        documents := folder.documents.map fun entry =>
          if entry.1 = names then (entry.1, change entry.2) else entry }
  | none => folder

end Folder

end ChipEight
