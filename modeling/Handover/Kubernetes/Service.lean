import Handover.Kubernetes.Metadata

/-!
# Services
-/

namespace Handover.Kubernetes

open Yaml Yaml.Fields

/-- A port by its number or by the name that a container gives it. -/
inductive PortRef where
  | number (n : Int32)
  | named (name : String)
  deriving DecidableEq, Repr, Inhabited

def PortRef.codec : Codec PortRef where
  read
    | .text s => .ok (.named s)
    | .number n => .number <$> Codec.int32.read (.number n)
    | _ => .error (.expected "a whole number or a text")
  write
    | .named s => .text s
    | .number n => Codec.int32.write n

/-- A port of a service. -/
structure ServicePort where
  appProtocol : Option String := none
  name : Option String := none
  nodePort : Option Int32 := none
  port : Int32 := 0
  protocol : Option String := none
  targetPort : Option PortRef := none
  deriving DecidableEq, Repr, Inhabited

def ServicePort.codec : Codec ServicePort := .record
  (fun fs => do
    return {
      appProtocol := ← fs.optional "appProtocol" .text
      name := ← fs.optional "name" .text
      nodePort := ← fs.optional "nodePort" .int32
      port := ← fs.withDefault "port" .int32 0
      protocol := ← fs.optional "protocol" .text
      targetPort := ← fs.optional "targetPort" PortRef.codec })
  (fun p =>
    opt "appProtocol" .text p.appProtocol
    ++ opt "name" .text p.name
    ++ opt "nodePort" .int32 p.nodePort
    ++ one "port" .int32 p.port
    ++ opt "protocol" .text p.protocol
    ++ opt "targetPort" PortRef.codec p.targetPort)

/-- How a service is reached and which pods stand behind it. -/
structure ServiceSpec where
  allocateLoadBalancerNodePorts : Option Bool := none
  clusterIP : Option String := none
  clusterIPs : Option (List String) := none
  externalIPs : Option (List String) := none
  externalName : Option String := none
  externalTrafficPolicy : Option String := none
  healthCheckNodePort : Option Int32 := none
  internalTrafficPolicy : Option String := none
  ipFamilies : Option (List String) := none
  ipFamilyPolicy : Option String := none
  loadBalancerClass : Option String := none
  loadBalancerIP : Option String := none
  loadBalancerSourceRanges : Option (List String) := none
  ports : Option (List ServicePort) := none
  publishNotReadyAddresses : Option Bool := none
  selector : Option Labels := none
  sessionAffinity : Option String := none
  sessionAffinityConfig : Option Value := none
  trafficDistribution : Option String := none
  type : Option String := none
  deriving DecidableEq, Repr, Inhabited

def ServiceSpec.codec : Codec ServiceSpec := .record
  (fun fs => do
    return {
      allocateLoadBalancerNodePorts := ← fs.optional "allocateLoadBalancerNodePorts" .bool
      clusterIP := ← fs.optional "clusterIP" .text
      clusterIPs := ← fs.optional "clusterIPs" (.list .text)
      externalIPs := ← fs.optional "externalIPs" (.list .text)
      externalName := ← fs.optional "externalName" .text
      externalTrafficPolicy := ← fs.optional "externalTrafficPolicy" .text
      healthCheckNodePort := ← fs.optional "healthCheckNodePort" .int32
      internalTrafficPolicy := ← fs.optional "internalTrafficPolicy" .text
      ipFamilies := ← fs.optional "ipFamilies" (.list .text)
      ipFamilyPolicy := ← fs.optional "ipFamilyPolicy" .text
      loadBalancerClass := ← fs.optional "loadBalancerClass" .text
      loadBalancerIP := ← fs.optional "loadBalancerIP" .text
      loadBalancerSourceRanges := ← fs.optional "loadBalancerSourceRanges" (.list .text)
      ports := ← fs.optional "ports" (.list ServicePort.codec)
      publishNotReadyAddresses := ← fs.optional "publishNotReadyAddresses" .bool
      selector := ← fs.optional "selector" Labels.codec
      sessionAffinity := ← fs.optional "sessionAffinity" .text
      sessionAffinityConfig :=
        ← fs.optional "sessionAffinityConfig" Schema.sessionAffinityConfig.codec
      trafficDistribution := ← fs.optional "trafficDistribution" .text
      type := ← fs.optional "type" .text })
  (fun s =>
    opt "allocateLoadBalancerNodePorts" .bool s.allocateLoadBalancerNodePorts
    ++ opt "clusterIP" .text s.clusterIP
    ++ opt "clusterIPs" (.list .text) s.clusterIPs
    ++ opt "externalIPs" (.list .text) s.externalIPs
    ++ opt "externalName" .text s.externalName
    ++ opt "externalTrafficPolicy" .text s.externalTrafficPolicy
    ++ opt "healthCheckNodePort" .int32 s.healthCheckNodePort
    ++ opt "internalTrafficPolicy" .text s.internalTrafficPolicy
    ++ opt "ipFamilies" (.list .text) s.ipFamilies
    ++ opt "ipFamilyPolicy" .text s.ipFamilyPolicy
    ++ opt "loadBalancerClass" .text s.loadBalancerClass
    ++ opt "loadBalancerIP" .text s.loadBalancerIP
    ++ opt "loadBalancerSourceRanges" (.list .text) s.loadBalancerSourceRanges
    ++ opt "ports" (.list ServicePort.codec) s.ports
    ++ opt "publishNotReadyAddresses" .bool s.publishNotReadyAddresses
    ++ opt "selector" Labels.codec s.selector
    ++ opt "sessionAffinity" .text s.sessionAffinity
    ++ opt "sessionAffinityConfig" Schema.sessionAffinityConfig.codec s.sessionAffinityConfig
    ++ opt "trafficDistribution" .text s.trafficDistribution
    ++ opt "type" .text s.type)

/-- A service. -/
structure Service where
  metadata : ObjectMeta := {}
  spec : Option ServiceSpec := none
  status : Option Value := none
  deriving DecidableEq, Repr, Inhabited

def Service.codec : Codec Service := .object "v1" "Service"
  (fun fs => do
    return {
      metadata := ← metadataOf fs
      spec := ← fs.optional "spec" ServiceSpec.codec
      status := ← fs.optional "status" Schema.serviceStatus.codec })
  (fun s =>
    one "metadata" ObjectMeta.codec s.metadata
    ++ opt "spec" ServiceSpec.codec s.spec
    ++ opt "status" Schema.serviceStatus.codec s.status)

end Handover.Kubernetes
