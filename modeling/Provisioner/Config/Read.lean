import Provisioner.Config.Basic
import Provisioner.Manifest.Source
import Provisioner.Yaml.Record
/-!
# Reading a configuration

A configuration is a YAML 1.1 document, in which every field may be left out and other fields are
passed over.
-/

namespace Provisioner

open Yaml (Reader)
open Yaml.Reader (fields field)
open Manifest (FileError)
open Text.Utf8 (Bytes)

/-- Read the channels. -/
def Channels.read : Reader Channels := fun document node => do
  let given ← fields ["victoria_metrics", "pxc", "psmdb", "dbaas"] document node
  let text (name value : String) := field given document name Reader.text value
  let d : Channels := {}
  return {
    victoriaMetrics := ← text "victoria_metrics" d.victoriaMetrics
    pxc := ← text "pxc" d.pxc
    psmdb := ← text "psmdb" d.psmdb
    dbaas := ← text "dbaas" d.dbaas }

/-- Read a monitoring server and its login. -/
def Monitoring.Server.read : Reader Monitoring.Server := fun document node => do
  let given ← fields ["endpoint", "username", "password"] document node
  let text (name value : String) := field given document name Reader.text value
  return {
    endpoint := ← text "endpoint" ""
    username := ← text "username" ""
    password := ← text "password" "" }

/-- Read what is set up after the operators. -/
def MonitoringConfig.read : Reader MonitoringConfig := fun document node => do
  let given ← fields ["enabled", "pmm"] document node
  return {
    enabled := ← field given document "enabled" Reader.bool true
    server := ← field given document "pmm" Monitoring.Server.read {} }

/-- Read a length of time in whole seconds. -/
def readSeconds : Reader Duration := fun document node => do
  return .ofSeconds (← Reader.natural 0xFFFFFFFFFFFFFFFF document node)

/-- Read how long to wait. -/
def Poll.read : Reader Poll := fun document node => do
  let given ← fields ["interval", "timeout"] document node
  return {
    interval := ← field given document "interval" readSeconds Poll.standard.interval
    timeout := ← field given document "timeout" readSeconds Poll.standard.timeout }

/-- Read how often to attempt an operation. -/
def Retry.read : Reader Retry := fun document node => do
  let given ← fields ["max_attempts", "delay"] document node
  let attempts ← field given document "max_attempts" (Reader.natural 0xFFFFFFFF)
    Retry.standard.maxAttempts.toNat
  return {
    maxAttempts := UInt32.ofNat attempts
    delay := ← field given document "delay" readSeconds Retry.standard.delay }

namespace Config

/-- The names of the fields. -/
def fieldNames : List String := [
  "kubeconfig", "install_olm", "manifests_dir", "namespace", "operator_group", "catalog_source",
  "catalog_source_namespace", "wait_for_completion", "channels", "monitoring", "poll", "retry"]

/-- Read a configuration. -/
def read : Reader Config := fun document node => do
  let given ← fields fieldNames document node
  let text (name value : String) := field given document name Reader.text value
  let d : Config := {}
  return {
    kubeconfig := ← field given document "kubeconfig" (Reader.nullable Reader.text) none
    installOlm := ← field given document "install_olm" Reader.bool d.installOlm
    manifestsDir := ← text "manifests_dir" d.manifestsDir
    ns := ← text "namespace" d.ns
    operatorGroup := ← text "operator_group" d.operatorGroup
    catalogSource := ← text "catalog_source" d.catalogSource
    catalogSourceNamespace := ← text "catalog_source_namespace" d.catalogSourceNamespace
    waitForCompletion :=
      ← field given document "wait_for_completion" Reader.bool d.waitForCompletion
    channels := ← field given document "channels" Channels.read {}
    monitoring := ← field given document "monitoring" MonitoringConfig.read {}
    poll := ← field given document "poll" Poll.read .standard
    retry := ← field given document "retry" Retry.read .standard }

/-- The configuration in a text. -/
def ofText (text : String) : Except Error Config :=
  (Yaml.readRecord read text.toList).mapError fun e => .config ("invalid config: " ++ e.message)

/-- Why a file is not one that can be read, in words. -/
def fileMessage : FileError → String
  | .missing => "No such file or directory (os error 2)"
  | .unreadable detail => detail

/-- The configuration in a file, given what reading the file gives, with the channels overridden
from the environment. -/
def load (path : String) (content : Except FileError Bytes) (env : Environment) :
    Except Error Config :=
  let refuse (detail : String) : Except Error Config :=
    .error (.config ("failed to read " ++ path ++ ": " ++ detail))
  match content with
  | .error e => refuse (fileMessage e)
  | .ok bytes =>
    match Text.Utf8.string? bytes with
    | none => refuse "stream did not contain valid UTF-8"
    | some text => do return (← ofText text).overridden env

end Config

end Provisioner
