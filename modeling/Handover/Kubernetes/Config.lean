import Handover.Kubernetes.Metadata

/-!
# Secrets and ConfigMaps
-/

namespace Handover.Kubernetes

open Yaml Yaml.Fields

abbrev Blobs := KeyMap String (List UInt8)

def Blobs.codec : Codec Blobs := .map .bytes

/-- Confidential data. -/
structure Secret where
  data : Option Blobs := none
  immutable : Option Bool := none
  metadata : ObjectMeta := {}
  stringData : Option Labels := none
  type : Option String := none
  deriving DecidableEq, Repr, Inhabited

def Secret.codec : Codec Secret := .object "v1" "Secret"
  (fun fs => do
    return {
      data := ← fs.optional "data" Blobs.codec
      immutable := ← fs.optional "immutable" .bool
      metadata := ← metadataOf fs
      stringData := ← fs.optional "stringData" Labels.codec
      type := ← fs.optional "type" .text })
  (fun s =>
    opt "data" Blobs.codec s.data
    ++ opt "immutable" .bool s.immutable
    ++ one "metadata" ObjectMeta.codec s.metadata
    ++ opt "stringData" Labels.codec s.stringData
    ++ opt "type" .text s.type)

/-- Configuration data. -/
structure ConfigMap where
  binaryData : Option Blobs := none
  data : Option Labels := none
  immutable : Option Bool := none
  metadata : ObjectMeta := {}
  deriving DecidableEq, Repr, Inhabited

def ConfigMap.codec : Codec ConfigMap := .object "v1" "ConfigMap"
  (fun fs => do
    return {
      binaryData := ← fs.optional "binaryData" Blobs.codec
      data := ← fs.optional "data" Labels.codec
      immutable := ← fs.optional "immutable" .bool
      metadata := ← metadataOf fs })
  (fun c =>
    opt "binaryData" Blobs.codec c.binaryData
    ++ opt "data" Labels.codec c.data
    ++ opt "immutable" .bool c.immutable
    ++ one "metadata" ObjectMeta.codec c.metadata)

end Handover.Kubernetes
