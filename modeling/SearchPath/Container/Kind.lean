import SearchPath.Error
import SearchPath.FileTree

/-!
# Kinds of containers

A container is a directory, or a file whose first four octets tell its kind.
-/

namespace SearchPath

inductive ContainerKind where
  | directory
  | jar
  | jmod
  /-- A runtime image. -/
  | image
  deriving DecidableEq, Repr

namespace ContainerKind

/-- The kind of a file by its first octets; `path` is for the error. -/
def ofContent (path : String) : List UInt8 → Except ContainerFault ContainerKind
  | 0x50 :: 0x4B :: _ :: _ :: _ => .ok .jar
  | 0x4A :: 0x4D :: 0x01 :: 0x00 :: _ => .ok .jmod
  | 0xCA :: 0xFE :: 0xDA :: 0xDA :: _ => .ok .image
  | 0xDA :: 0xDA :: 0xFE :: 0xCA :: _ => .ok .image
  | _ :: _ :: _ :: _ :: _ => .error (.format (.unrecognised path))
  | _ => .error (.format (.tooShort path))

def recognise (tree : FileTree) (path : String) : Except ContainerFault ContainerKind :=
  if tree.isDirectory path then .ok .directory
  else
    match tree.content? path with
    | none => .error (.io "cannot open file")
    | some content => ofContent path content

end ContainerKind

end SearchPath
