import PageAudit.Core
import PageAudit.Files.Tree

/-!
What has to be done to a file system so that it holds one tree instead of another.
-/

namespace PageAudit.Files

/-- One thing to do. Directories are made before what lies in them. -/
inductive Change where
  | remove (place : Place)
  | makeDirectory (place : Place)
  | write (place : Place) (content : Content)

namespace Tree

def renewal (old : Tree) (place : Place) : Node → List Change
  | .directory _ => if old.isDirectory place then [] else [.makeDirectory place]
  | .file content =>
    match old.find? place with
    | some (.file before) =>
      if before.toBytes = content.toBytes then [] else [.write place content]
    | _ => [.write place content]

def removals (old new : Tree) : List Change :=
  (old.nodes.filter fun (p, _) => (new.find? p).isNone && (new.find? p.dropLast).isSome).map
    fun (p, _) => .remove p

def changes (old new : Tree) : List Change :=
  removals old new ++ new.nodes.flatMap fun (p, n) => renewal old p n

end Tree

end PageAudit.Files
