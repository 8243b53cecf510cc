import TenantAuth.Text.Split

/-!
This module contains a tree of files and what is found in it under a path.
-/

namespace TenantAuth

inductive FileFailure where
  | notFound
  | notDirectory
  | isDirectory
  | nameTooLong
  | nulInName
deriving DecidableEq, Repr

def FileFailure.message : FileFailure → String
  | notFound => "No such file or directory (os error 2)"
  | notDirectory => "Not a directory (os error 20)"
  | isDirectory => "Is a directory (os error 21)"
  | nameTooLong => "File name too long (os error 36)"
  | nulInName => "file name contained an unexpected NUL byte"

inductive FileNode where
  | file (contents : List UInt8)
  | directory
deriving DecidableEq, Repr

/--
A tree of files, given by the places of its nodes. The directories on the way to a node are there, too,
and so is the working directory, where relative paths start.
-/
structure FileTree where
  nodes : List (List String × FileNode)
  workingDirectory : List String
deriving DecidableEq

namespace FileTree

def node? (t : FileTree) (place : List String) : Option FileNode :=
  match t.nodes.find? fun n => n.1 == place with
  | some (_, node) => some node
  | none =>
    if (t.workingDirectory :: t.nodes.map Prod.fst).any place.isPrefixOf then some .directory else none

/--
Follows the segments of a path from a place on. A segment after a file leads nowhere, not even one that is
empty or a dot.
-/
def follow (t : FileTree) (place : List String) : List String → Except FileFailure (List String)
  | [] => .ok place
  | segment :: segments =>
    if t.node? place ≠ some .directory then .error .notDirectory
    else if segment = "" ∨ segment = "." then t.follow place segments
    else if segment = ".." then t.follow place.dropLast segments
    else if 255 < segment.utf8ByteSize then .error .nameTooLong
    else if (t.node? (place ++ [segment])).isNone then .error .notFound
    else t.follow (place ++ [segment]) segments

def read (t : FileTree) (path : String) : Except FileFailure (List UInt8) := do
  if path.toList.contains '\x00' then throw .nulInName
  if 4096 ≤ path.utf8ByteSize then throw .nameTooLong
  let start := if path.toList.head? = some '/' then [] else t.workingDirectory
  let place ← t.follow start (Text.split '/' path)
  match t.node? place with
  | some (.file contents) => return contents
  | some .directory => throw .isDirectory
  | none => throw .notFound

end FileTree

end TenantAuth
