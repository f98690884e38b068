import OperationClasses.Files.Tree

/-!
# Removing folders

A folder is removed with all that is in it, what came last going first. Taking something out of
a folder needs the right to write and search it, and looking into it the right to read it.
-/
namespace OperationClasses.FileTree

/-- The names in a folder, the latest first. -/
def namesIn (t : FileTree) (p : Place) : List String :=
  let names := t.entries.filterMap fun (q, _) => if p.isPrefixOf q then q[p.length]? else none
  (names.foldl (fun seen name => if seen.contains name then seen else name :: seen) [])

/-- What keeps a folder from being emptied. It is reported with the name of the file or folder
that cannot be taken out or looked into. The bound is one on the depth of the tree. -/
def emptyingFault? (t : FileTree) : Nat → Place → Option FileFault
  | 0, _ => none
  | n + 1, p =>
    (t.namesIn p).findSome? fun name =>
      let q := p ++ [name]
      let a := t.access p
      let denied : FileFault := ⟨.denied, name⟩
      if !a.search then some denied
      else if t.isFolder q then
        if !(t.access q).read then some denied
        else (t.emptyingFault? n q).or (if a.write then none else some denied)
      else if a.write then none else some denied

/-- What keeps a folder from being removed. -/
def removalFault? (t : FileTree) (p : Place) : Option FileFault :=
  if !(t.access p).read then some ⟨.denied, p.text⟩
  else t.emptyingFault? ((t.entries.map fun e => e.1.length).foldl max 0) p

/-- The tree without what is at a place and below it. -/
def without (t : FileTree) (p : Place) : FileTree :=
  ⟨t.entries.filter fun e => !p.isPrefixOf e.1, t.limits.filter fun l => !p.isPrefixOf l.1⟩

end OperationClasses.FileTree
