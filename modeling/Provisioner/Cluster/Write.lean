import Provisioner.Cluster.Call
import Provisioner.Retry
/-!
# Changing a cluster

Manifests applied again and again until they are accepted, and the changes made to database
clusters.
-/

namespace Provisioner.Cluster

open Text.Utf8 (Bytes)

/-- Apply a manifest as often as a policy allows. -/
def applyManifestWithRetry (retry : Retry) (manifest : Bytes) : Work Unit :=
  retry.run (Call.applyManifest manifest).perform

/-- The resource of a document. -/
def resource (document : Json) : Work Resource :=
  Program.ofExcept ((Resource.ofJson document).mapError fun e => .manifest e.message)

/-- Create a database cluster that is marked as managed from outside. -/
def createDatabaseCluster (c : DatabaseCluster) : Work Unit := do
  let marked :=
    c.setAnnotation DatabaseCluster.managedByAnnotation DatabaseCluster.managedByValue
  let r ← resource marked.forApply.encode
  (Call.applyResource r).perform

/-- Apply a changed database cluster. -/
def patchDatabaseCluster (c : DatabaseCluster) : Work Unit := do
  let r ← resource c.forApply.encode
  (Call.applyResource r).perform

/-- A document that says nothing of a database cluster but that it is to be restarted. -/
def restartDocument (key : ObjectKey) : Json :=
  Json.ofMembers (DatabaseCluster.kind.members ++
    Json.member "metadata" (Json.ofMembers (Json.member "name" (.string key.name) ++
      Json.member "namespace" (.string key.ns) ++
      Json.member "annotations"
        (Json.ofMembers (Json.member DatabaseCluster.restartAnnotation (.string "true"))))))

/-- Ask for a restart of a database cluster, which must be there.  Nothing but the annotation that
asks for it is applied. -/
def restartDatabaseCluster (key : ObjectKey) : Work Unit := do
  let _ ← (Call.getDatabaseCluster key).perform
  let r ← resource (restartDocument key)
  (Call.applyResource r).perform

/-- Delete a database cluster, which must be there. -/
def deleteDatabaseCluster (key : ObjectKey) : Work Unit := do
  let c ← (Call.getDatabaseCluster key).perform
  let r ← resource c.encode
  (Call.deleteResource r).perform

end Provisioner.Cluster
