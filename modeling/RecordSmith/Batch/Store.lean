import RecordSmith.Files.Tree
import RecordSmith.Generation.Basic

/-!
# Storing results

The source texts of results are written below a directory, each under its artifact name.  Of several
results with one artifact name the first is written and the others are left out.
-/

namespace RecordSmith.Batch

/-- The source texts to write, in order: each artifact name once, and none of those in `seen`. -/
def artifacts (seen : List Text) : List GenerationResult → List Generated
  | [] => []
  | result :: rest =>
    match result.generated with
    | none => artifacts seen rest
    | some generated =>
      if seen.contains generated.artifactName then artifacts seen rest
      else generated :: artifacts (generated.artifactName :: seen) rest

/-- The path of a source text below a directory. -/
def artifactPath (directory : Path) (generated : Generated) : Path :=
  directory.join (Path.ofText generated.artifactName)

/-- Writes one source text, after making the directories around it. -/
def store (directory : Path) (generated : Generated) : FileAction Path := do
  let path := artifactPath directory generated
  FileAction.makeDirectories path.parent
  FileAction.writeText path generated.source
  return path

/-- Writes source texts below a directory, which is made if it is missing.  The answer lists the
paths in the order in which they were written. -/
def storeAll (directory : Path) (results : List GenerationResult) : FileAction (List Path) := do
  FileAction.makeDirectories directory
  (artifacts [] results).mapM (store directory)

end RecordSmith.Batch
