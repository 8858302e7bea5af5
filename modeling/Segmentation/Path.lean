import Segmentation.Language

/-!
# Paths

A path is a root and the names between its slashes. Empty names and single dots name nothing and are
dropped, so that two spellings of one path have the same written form. Double dots are kept.
-/

namespace Segmentation

/-- A slash-separated path. -/
structure Path where
  /-- No slash, one, or exactly two: more than two leading slashes count as one. -/
  root : Text
  names : List Text
  deriving DecidableEq, Repr

namespace Path

/-- The pieces between the slashes of a text. -/
def pieces : Text → List Text
  | [] => [[]]
  | character :: rest =>
      match pieces rest with
      | [] => [[character]]
      | piece :: others =>
          if character == '/' then [] :: piece :: others else (character :: piece) :: others

/-- The path that a text spells. -/
def ofText (text : Text) : Path where
  root :=
    match (text.takeWhile (· == '/')).length with
    | 0 => []
    | 2 => ['/', '/']
    | _ => ['/']
  names := (pieces text).filter fun name => !name.isEmpty && name != ['.']

/-- The written form of a path: a single dot when it names nothing. -/
def toText (path : Path) : Text :=
  match path.root ++ (path.names.intersperse ['/']).flatten with
  | [] => ['.']
  | text => text

/-- The last name of the path, empty when there is none. -/
def name (path : Path) : Text :=
  path.names.getLastD []

/-- The path without its last name. -/
def parent (path : Path) : Path :=
  { path with names := path.names.dropLast }

/-- A name after others, which a double dot takes back. At a root there is nothing to take back. -/
def resolveName (isRooted : Bool) (kept : List Text) (name : Text) : List Text :=
  if name != "..".toList then kept ++ [name]
  else
    match kept.getLast? with
    | none => if isRooted then [] else [name]
    | some last => if last == name then kept ++ [name] else kept.dropLast

/-- The path with every double dot taken together with the name before it. -/
def resolved (path : Path) : Path :=
  { path with names := path.names.foldl (resolveName !path.root.isEmpty) [] }

/-- The last dot of the last name and all after it. A dot that is the first or the last character of
the name starts no suffix. -/
def suffix (path : Path) : Text :=
  let tail := path.name.reverse.takeWhile (· != '.')
  if tail.isEmpty || path.name.length ≤ tail.length + 1 then [] else '.' :: tail.reverse

/-- The language that the path's suffix stands for. -/
def language (path : Path) : Language :=
  Language.ofSuffix path.suffix

/-- Whether `path` lies somewhere below `folder`. -/
def isBelow (path folder : Path) : Bool :=
  path.root == folder.root && folder.names.isPrefixOf path.names && path.names != folder.names

end Path

end Segmentation
