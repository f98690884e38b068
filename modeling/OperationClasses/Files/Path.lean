import OperationClasses.Text.Pieces

/-!
# Paths

A path is a text with slashes between names. Read from the place where it is used it leads to a
place, which is the list of names from the root down.
-/
namespace OperationClasses

/-- A place in a tree of files: the names from the root down. -/
abbrev Place := List String

namespace Path

open Text

/-- The names of a path, empty ones where slashes meet. -/
def parts (path : String) : List String := (pieces '/' path.toList).map String.ofList

def isAbsolute (path : String) : Bool := startsWith path "/"

/-- The name behind the last slash. -/
def name (path : String) : String := behindLast '/' path

/-- What is before the last slash, without slashes at its end unless it holds nothing else. -/
def folder (path : String) : String :=
  let head := path.toList.take (path.length - (name path).length)
  if head.all (· = '/') then String.ofList head
  else String.ofList ((head.reverse.dropWhile (· = '/')).reverse)

/-- The slashes with which a path begins that begin a path of the same meaning: two remain two,
more of them are one. -/
def root (path : String) : String :=
  if startsWith path "//" && !startsWith path "///" then "//"
  else if isAbsolute path then "/" else ""

/-- A path that begins with given slashes and goes on with names. -/
def ofNames (root : String) (names : List String) : String :=
  if root = "" && names.isEmpty then "." else root ++ "/".intercalate names

/-- A path without what leads nowhere: empty names and names that stay where one is. -/
def normal (path : String) : String :=
  ofNames (root path) ((parts path).filter fun s => s ≠ "" && s ≠ ".")

/-- One name further on, the last name first. A way back takes the last name away if there is one
to take. -/
def stepBack (isRooted : Bool) (before : List String) (name : String) : List String :=
  if name = "" || name = "." then before
  else if name ≠ ".." then name :: before
  else match before with
    | [] => if isRooted then [] else [".."]
    | ".." :: _ => ".." :: before
    | _ :: above => above

/-- A path without detours: names are taken away together with the ways back from them. -/
def plain (path : String) : String :=
  ofNames (root path) ((parts path).foldl (stepBack (root path ≠ "")) []).reverse

/-- A path without slashes at its end. -/
def withoutEnd (path : String) : String :=
  String.ofList ((path.toList.reverse.dropWhile (· = '/')).reverse)

/-- The longest name that a file or folder can have, in bytes. -/
def maxNameSize : Nat := 255

/-- The longest path that can be followed, in bytes. -/
def maxSize : Nat := 4095

/-- A path that goes on from another one; an absolute path begins anew. -/
def join (path name : String) : String :=
  if isAbsolute name then name
  else if path = "" || endsWith path "/" then path ++ name else path ++ "/" ++ name

/-- The part of a name from its last dot on; none when that dot is its first or last character. -/
def suffix (name : String) : String :=
  let last := behindLast '.' name
  if last = "" || last.length + 1 ≥ name.length then "" else "." ++ last

end Path

namespace Place

/-- The absolute path of a place. -/
def text (p : Place) : String := "/" ++ "/".intercalate p

def name (p : Place) : String := p.getLast?.getD ""

def parent (p : Place) : Place := p.dropLast

/-- One name further on. -/
def step (p : Place) (name : String) : Place :=
  if name = "" || name = "." then p
  else if name = ".." then p.parent
  else p ++ [name]

/-- Where a path begins that is used at a place. -/
def start (here : Place) (path : String) : Place := if Path.isAbsolute path then [] else here

/-- The place that a path leads to, whether there is anything or not. -/
def resolve (here : Place) (path : String) : Place :=
  (Path.parts path).foldl step (start here path)

end Place

end OperationClasses
