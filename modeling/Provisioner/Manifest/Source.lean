import Provisioner.Error
import Provisioner.Text.Search
import Provisioner.Text.Utf8
/-!
# Where manifests come from

The files that are shipped with the program, by their paths under a root, and what reading one of
them gives.
-/

namespace Provisioner.Manifest

open Text.Utf8 (Bytes)

/-- What reading the file at a path gives. -/
abbrev Source : Type := String → Except Error Bytes

/-- Files held in memory. -/
def Source.ofFiles (files : List (String × Bytes)) : Source := fun path =>
  match files.lookup path with
  | some bytes => .ok bytes
  | none => .error (.notFound ("manifest " ++ path))

/-- Why a file cannot be read. -/
inductive FileError where
  /-- There is no such file. -/
  | missing
  /-- There is one, but it cannot be read. -/
  | unreadable (detail : String)
deriving DecidableEq

/-- Why a file cannot be read, by the number of the cause and a text for causes without a name. -/
def FileError.ofNumber (number : Nat) (detail : String) : FileError :=
  let named (cause : String) : FileError :=
    .unreadable (cause ++ " (os error " ++ toString number ++ ")")
  match number with
  | 2 => .missing
  | 13 => named "Permission denied"
  | 20 => named "Not a directory"
  | 21 => named "Is a directory"
  | 36 => named "File name too long"
  | 40 => named "Too many levels of symbolic links"
  | _ => named detail

/-- A path under a directory; an absolute path stays as it is. -/
def joinPath (root path : String) : String :=
  if Text.startsWith "/" path then path
  else if root = "" ∨ root.toList.getLast? = some '/' then root ++ path
  else root ++ "/" ++ path

/-- Files under a directory. -/
def Source.ofDirectory (root : String) (read : String → Except FileError Bytes) : Source :=
  fun path =>
    let full := joinPath root path
    match read full with
    | .ok bytes => .ok bytes
    | .error .missing => .error (.notFound ("manifest " ++ full))
    | .error (.unreadable detail) => .error (.io detail)

/-- Definitions of the kinds of the operator lifecycle manager. -/
def olmDefinitions : String := "crds/olm/crds.yaml"

/-- The operator lifecycle manager itself. -/
def olmComponents : String := "crds/olm/olm.yaml"

/-- The catalog of the database operators. -/
def catalog : String := "crds/olm/percona-dbaas-catalog.yaml"

/-- The monitoring stack in the order in which it is applied: first what may be read and what is
scraped, then the exporter of the state of the cluster, then what scrapes the exporter. -/
def monitoring : List String := [
  "crds/victoriametrics/crs/vmagent_rbac.yaml",
  "crds/victoriametrics/crs/vmnodescrape.yaml",
  "crds/victoriametrics/crs/vmpodscrape.yaml",
  "crds/victoriametrics/kube-state-metrics/service-account.yaml",
  "crds/victoriametrics/kube-state-metrics/cluster-role.yaml",
  "crds/victoriametrics/kube-state-metrics/cluster-role-binding.yaml",
  "crds/victoriametrics/kube-state-metrics/deployment.yaml",
  "crds/victoriametrics/kube-state-metrics/service.yaml",
  "crds/victoriametrics/kube-state-metrics.yaml"]

/-- All of the manifests. -/
def paths : List String := [olmDefinitions, olmComponents, catalog] ++ monitoring

/-- The monitoring stack in the order in which it is deleted. -/
def monitoringCleanup : List String := [
  "crds/victoriametrics/kube-state-metrics.yaml",
  "crds/victoriametrics/kube-state-metrics/cluster-role-binding.yaml",
  "crds/victoriametrics/kube-state-metrics/cluster-role.yaml",
  "crds/victoriametrics/kube-state-metrics/deployment.yaml",
  "crds/victoriametrics/kube-state-metrics/service-account.yaml",
  "crds/victoriametrics/kube-state-metrics/service.yaml",
  "crds/victoriametrics/crs/vmagent_rbac.yaml",
  "crds/victoriametrics/crs/vmnodescrape.yaml",
  "crds/victoriametrics/crs/vmpodscrape.yaml"]

end Provisioner.Manifest
