import Provisioner.Json.Fields
/-!
# The version of the API server
-/

namespace Provisioner

open Json (Decoder Fields)

/-- What an API server says about itself. -/
structure ServerVersion where
  /-- Version as it is tagged. -/
  gitVersion : String := ""
  /-- First part of the version. -/
  major : String := ""
  /-- Second part of the version. -/
  minor : String := ""
  /-- System and processor that it runs on. -/
  platform : String := ""
deriving DecidableEq

/-- Read the version of a server; parts that are absent are empty. -/
def ServerVersion.decode : Decoder ServerVersion := fun value => do
  let fields ← Fields.opened value
  return {
    gitVersion := ← fields.lenient "gitVersion" Decoder.string ""
    major := ← fields.lenient "major" Decoder.string ""
    minor := ← fields.lenient "minor" Decoder.string ""
    platform := ← fields.lenient "platform" Decoder.string "" }

end Provisioner
