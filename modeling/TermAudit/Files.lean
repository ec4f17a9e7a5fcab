import TermAudit.Text.Quoted
import TermAudit.Text.Utf8

/-!
# `TermAudit.Files`: paths, and what reading a file gives

`Path.normalized` is the form in which a path is used and shown: without empty and `.` components.
Reading a file gives octets or a `FileFailure`. `FileTree` is a directory tree held in memory, for
which `FileTree.read` says what reading a path gives.
-/

set_option autoImplicit false

namespace TermAudit

namespace Path

/-- The components of a path that count: none that is empty, and none that is `.`. A `..` stays, as only
the files tell where it leads. -/
def components (path : Text) : List Text :=
  (path.splitAll '/').filter fun c => !c.isEmpty && c != Text.ofString "."

/-- How many separators keep their meaning at the start: one, or exactly two. -/
def root (path : Text) : Text :=
  match path.takeWhile fun c => decide (c = CodePoint.ofChar '/') with
  | [] => ""
  | [_, _] => "//"
  | _ => "/"

/-- The path without components that do not count. -/
def normalized (path : Text) : Text :=
  let joined := root path ++ Text.joinWith "/" (components path)
  if joined.isEmpty then "." else joined

/-- Whether no file can have the path: it holds a NUL, which ends a path for the system. -/
def isImpossible (path : Text) : Bool :=
  path.any fun c => c = CodePoint.ofChar '\x00'

/-- The number of octets of a code point in UTF-8. -/
def octetCount (c : CodePoint) : Nat :=
  if c.val < 0x80 then 1 else if c.val < 0x800 then 2 else if c.val < 0x10000 then 3 else 4

/-- The number of octets of a path or a component. -/
def size (t : Text) : Nat :=
  (t.map octetCount).foldr (· + ·) 0

/-- The greatest size of a component. -/
def maxComponentSize : Nat := 255

/-- The greatest size of a path. -/
def maxSize : Nat := 4095

/-- Whether the system refuses to look at the path because of its size. -/
def isTooLong (path : Text) : Bool :=
  maxSize < size path

end Path

/-- Why the system does not let a file be read. -/
inductive FileFailure where
  | missing
  | notDirectory
  | isDirectory
  | nameTooLong
  /-- Another reason, by its number. -/
  | other (number : Nat) (reason : Text)
deriving DecidableEq

/-- The number and the words of the system for a failure, and the path. -/
def FileFailure.message (f : FileFailure) (path : Text) : Text :=
  let (number, reason) : Nat × Text :=
    match f with
    | .missing => (2, "No such file or directory")
    | .notDirectory => (20, "Not a directory")
    | .isDirectory => (21, "Is a directory")
    | .nameTooLong => (36, "File name too long")
    | .other number reason => (number, reason)
  ("[Errno " : Text) ++ Text.ofNat number ++ ("] " : Text) ++ reason ++ (": " : Text)
    ++ path.quoted

/-- What reading a file gives: its octets, or the failure that the system reports. -/
abbrev FileContent := Except FileFailure (List UInt8)

/-- Whether a path leads to a directory, given what reading a path in its normal form gives. The
path itself must not be empty or too long for the system. -/
def Path.isDirectory (read : Text → FileContent) (path : Text) : Bool :=
  !path.isEmpty && !isTooLong path &&
    match read (normalized path) with
    | .error .isDirectory => true
    | _ => false

/-- The text in octets, with plain line breaks. Octets that are not UTF-8 make no text. -/
def Text.ofFile? (octets : List UInt8) : Option Text :=
  (Text.ofUtf8? octets).map Text.withPlainBreaks

/-- Files by the components of their paths. It stands for the files of a system where runs are
computed. -/
structure FileTree where
  files : List (List Text × List UInt8)

namespace FileTree

/-- Whether the components lead to a directory: some file lies below. -/
def isDirectory (t : FileTree) (place : List Text) : Bool :=
  place.isEmpty || t.files.any fun f => place.isPrefixOf f.1 && place.length < f.1.length

/-- Follows components from a directory on, given in reverse; `none` is a directory outside of the
tree, where nothing else is found. -/
def follow (t : FileTree) : Option (List Text) → List Text → FileContent
  | _, [] => .error .isDirectory
  | here, c :: rest =>
    if c = Text.ofString ".." then
      match here with
      | some (_ :: parent) => t.follow (some parent) rest
      | some [] | none => t.follow none rest
    else if Path.maxComponentSize < Path.size c then .error .nameTooLong
    else
      match here with
      | none => .error .missing
      | some here =>
        let place := (c :: here).reverse
        match t.files.lookup place with
        | some octets => if rest.isEmpty then .ok octets else .error .notDirectory
        | none =>
          if t.isDirectory place then t.follow (some (c :: here)) rest else .error .missing

/-- What reading a path gives. A path that begins with a separator begins outside of the tree. -/
def read (t : FileTree) (path : Text) : FileContent :=
  if Path.isTooLong (Path.normalized path) then .error .nameTooLong
  else t.follow (if (Path.root path).isEmpty then some [] else none) (Path.components path)

end FileTree

end TermAudit
