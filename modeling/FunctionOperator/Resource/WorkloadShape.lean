import FunctionOperator.Resource.Shape

/-!
# Shapes of deployments and services

The fields that deployments and services have in the cluster, with those of the pods in them.
-/

namespace FunctionOperator

namespace Shape

/-- A map of texts. -/
def textMap : Shape := .map .text

/-- A list of texts. -/
def texts : Shape := .list .text

/-- A selection by labels. -/
def labelSelector : Shape := .record [
  field "matchExpressions" (.list (.record [
    needed "key" .text, needed "operator" .text, field "values" texts])),
  field "matchLabels" textMap]

/-- A reference to a key of a secret or a map. -/
def keySelector : Shape := .record [
  needed "key" .text, needed "name" .text, field "optional" .flag]

/-- A reference to a field of the pod. -/
def fieldSelector : Shape := .record [field "apiVersion" .text, needed "fieldPath" .text]

/-- A reference to a quantity of a container. -/
def resourceSelector : Shape := .record [
  field "containerName" .text, field "divisor" .text, needed "resource" .text]

/-- The source of an environment variable's value. -/
def valueSource : Shape := .record [
  field "configMapKeyRef" keySelector,
  field "fieldRef" fieldSelector,
  field "resourceFieldRef" resourceSelector,
  field "secretKeyRef" keySelector]

/-- A request of a probe or a hook. -/
def request : Shape := .record [
  field "host" .text,
  field "httpHeaders" (.list (.record [needed "name" .text, needed "value" .text])),
  field "path" .text, needed "port" .intOrText, field "scheme" .text]

/-- A command of a probe or a hook. -/
def command : Shape := .record [field "command" texts]

/-- A connection of a probe or a hook. -/
def socket : Shape := .record [field "host" .text, needed "port" .intOrText]

/-- A probe. -/
def probe : Shape := .record ([
  field "exec" command, field "httpGet" request, field "tcpSocket" socket,
  field "grpc" (.record [needed "port" .int32, field "service" .text]),
  field "terminationGracePeriodSeconds" .int64] ++
  each ["failureThreshold", "initialDelaySeconds", "periodSeconds", "successThreshold",
    "timeoutSeconds"] .int32)

/-- A hook. -/
def hook : Shape := .record [
  field "exec" command, field "httpGet" request, field "tcpSocket" socket,
  field "sleep" (.record [needed "seconds" .int64])]

/-- Quantities. -/
def resources : Shape := .record [
  field "claims" (.list (.record [needed "name" .text])),
  field "limits" textMap, field "requests" textMap]

/-- Labels of a security policy. -/
def seLinux : Shape := .record (each ["level", "role", "type", "user"] .text)

/-- A security profile. -/
def profile : Shape := .record [field "localhostProfile" .text, needed "type" .text]

/-- Restrictions on a host of another system. -/
def windows : Shape := .record (each ["gmsaCredentialSpec", "gmsaCredentialSpecName",
  "runAsUserName"] .text ++ [field "hostProcess" .flag])

/-- Restrictions of a container. -/
def containerSecurity : Shape := .record (
  each ["allowPrivilegeEscalation", "privileged", "readOnlyRootFilesystem", "runAsNonRoot"] .flag ++
  each ["runAsGroup", "runAsUser"] .int64 ++ [
  field "appArmorProfile" profile,
  field "capabilities" (.record [field "add" texts, field "drop" texts]),
  field "procMount" .text, field "seLinuxOptions" seLinux, field "seccompProfile" profile,
  field "windowsOptions" windows])

/-- The fields of a container. -/
def containerFields : List (String × Bool × Shape) :=
  each ["args", "command"] texts ++ [
  field "env" (.list (.record [
    needed "name" .text, field "value" .text, field "valueFrom" valueSource])),
  field "envFrom" (.list (.record [
    field "configMapRef" (.record [needed "name" .text, field "optional" .flag]),
    field "prefix" .text,
    field "secretRef" (.record [needed "name" .text, field "optional" .flag])])),
  field "lifecycle" (.record [field "postStart" hook, field "preStop" hook]),
  field "livenessProbe" probe, needed "name" .text,
  field "ports" (.list (.record [
    needed "containerPort" .int32, field "hostIP" .text, field "hostPort" .int32,
    field "name" .text, field "protocol" .text])),
  field "readinessProbe" probe,
  field "resizePolicy" (.list (.record [
    needed "resourceName" .text, needed "restartPolicy" .text])),
  field "resources" resources, field "securityContext" containerSecurity,
  field "startupProbe" probe,
  field "volumeDevices" (.list (.record [needed "devicePath" .text, needed "name" .text])),
  field "volumeMounts" (.list (.record [
    needed "mountPath" .text, field "mountPropagation" .text, needed "name" .text,
    field "readOnly" .flag, field "recursiveReadOnly" .text, field "subPath" .text,
    field "subPathExpr" .text]))] ++
  each ["image", "imagePullPolicy", "restartPolicy", "terminationMessagePath",
    "terminationMessagePolicy", "workingDir"] .text ++
  each ["stdin", "stdinOnce", "tty"] .flag

/-- A container. -/
def container : Shape := .record containerFields

/-- A container that is added to a running pod. -/
def addedContainer : Shape := .record (field "targetContainerName" .text :: containerFields)

/-- A reference to an object of the same namespace. -/
def localReference : Shape := .record [needed "name" .text]

/-- The files of a volume. -/
def keyPaths : Shape := .list (.record [
  needed "key" .text, field "mode" .int32, needed "path" .text])

/-- The files of a volume that tell about the pod. -/
def podFiles : Shape := .list (.record [
  field "fieldRef" fieldSelector, field "mode" .int32, needed "path" .text,
  field "resourceFieldRef" resourceSelector])

/-- The parts of a volume that is put together. -/
def projection : Shape := .record [
  field "clusterTrustBundle" (.record [
    field "labelSelector" labelSelector, field "name" .text, field "optional" .flag,
    needed "path" .text, field "signerName" .text]),
  field "configMap" (.record [
    field "items" keyPaths, needed "name" .text, field "optional" .flag]),
  field "downwardAPI" (.record [field "items" podFiles]),
  field "secret" (.record [
    field "items" keyPaths, needed "name" .text, field "optional" .flag]),
  field "serviceAccountToken" (.record [
    field "audience" .text, field "expirationSeconds" .int64, needed "path" .text])]

/-- The template of a claim to a volume. -/
def claimTemplate : Shape := .record [
  field "metadata" .metadata,
  needed "spec" (.record ([
    field "accessModes" texts,
    field "dataSource" (.record [
      field "apiGroup" .text, needed "kind" .text, needed "name" .text]),
    field "dataSourceRef" (.record [
      field "apiGroup" .text, needed "kind" .text, needed "name" .text, field "namespace" .text]),
    field "resources" (.record [field "limits" textMap, field "requests" textMap]),
    field "selector" labelSelector] ++
    each ["storageClassName", "volumeAttributesClassName", "volumeMode", "volumeName"] .text))]

/-- The volumes that the cluster itself provides. -/
def clusterVolumes : List (String × Bool × Shape) := [
  field "configMap" (.record [
    field "defaultMode" .int32, field "items" keyPaths, needed "name" .text,
    field "optional" .flag]),
  field "downwardAPI" (.record [field "defaultMode" .int32, field "items" podFiles]),
  field "emptyDir" (.record [field "medium" .text, field "sizeLimit" .text]),
  field "ephemeral" (.record [field "volumeClaimTemplate" claimTemplate]),
  field "gitRepo" (.record [
    field "directory" .text, needed "repository" .text, field "revision" .text]),
  field "hostPath" (.record [needed "path" .text, field "type" .text]),
  field "persistentVolumeClaim" (.record [needed "claimName" .text, field "readOnly" .flag]),
  field "projected" (.record [
    field "defaultMode" .int32, field "sources" (.list projection)]),
  field "secret" (.record [
    field "defaultMode" .int32, field "items" keyPaths, field "optional" .flag,
    field "secretName" .text])]

/-- The volumes that a network or a provider of disks holds. -/
def remoteVolumes : List (String × Bool × Shape) := [
  field "awsElasticBlockStore" (.record [
    field "fsType" .text, field "partition" .int32, field "readOnly" .flag,
    needed "volumeID" .text]),
  field "azureDisk" (.record [
    field "cachingMode" .text, needed "diskName" .text, needed "diskURI" .text,
    field "fsType" .text, field "kind" .text, field "readOnly" .flag]),
  field "azureFile" (.record [
    field "readOnly" .flag, needed "secretName" .text, needed "shareName" .text]),
  field "cephfs" (.record [
    needed "monitors" texts, field "path" .text, field "readOnly" .flag,
    field "secretFile" .text, field "secretRef" localReference, field "user" .text]),
  field "cinder" (.record [
    field "fsType" .text, field "readOnly" .flag, field "secretRef" localReference,
    needed "volumeID" .text]),
  field "csi" (.record [
    needed "driver" .text, field "fsType" .text, field "nodePublishSecretRef" localReference,
    field "readOnly" .flag, field "volumeAttributes" textMap]),
  field "fc" (.record [
    field "fsType" .text, field "lun" .int32, field "readOnly" .flag, field "targetWWNs" texts,
    field "wwids" texts]),
  field "flexVolume" (.record [
    needed "driver" .text, field "fsType" .text, field "options" textMap,
    field "readOnly" .flag, field "secretRef" localReference]),
  field "flocker" (.record (each ["datasetName", "datasetUUID"] .text)),
  field "gcePersistentDisk" (.record [
    field "fsType" .text, field "partition" .int32, needed "pdName" .text,
    field "readOnly" .flag]),
  field "glusterfs" (.record [
    needed "endpoints" .text, needed "path" .text, field "readOnly" .flag]),
  field "iscsi" (.record (
    each ["chapAuthDiscovery", "chapAuthSession", "readOnly"] .flag ++
    each ["fsType", "initiatorName", "iscsiInterface"] .text ++ [
    needed "iqn" .text, needed "lun" .int32, field "portals" texts,
    field "secretRef" localReference, needed "targetPortal" .text])),
  field "nfs" (.record [needed "path" .text, field "readOnly" .flag, needed "server" .text]),
  field "photonPersistentDisk" (.record [field "fsType" .text, needed "pdID" .text]),
  field "portworxVolume" (.record [
    field "fsType" .text, field "readOnly" .flag, needed "volumeID" .text]),
  field "quobyte" (.record [
    field "group" .text, field "readOnly" .flag, needed "registry" .text, field "tenant" .text,
    field "user" .text, needed "volume" .text]),
  field "rbd" (.record [
    field "fsType" .text, needed "image" .text, field "keyring" .text, needed "monitors" texts,
    field "pool" .text, field "readOnly" .flag, field "secretRef" localReference,
    field "user" .text]),
  field "scaleIO" (.record (
    each ["fsType", "protectionDomain", "storageMode", "storagePool", "volumeName"] .text ++
    each ["readOnly", "sslEnabled"] .flag ++ [
    needed "gateway" .text, needed "secretRef" localReference, needed "system" .text])),
  field "storageos" (.record [
    field "fsType" .text, field "readOnly" .flag, field "secretRef" localReference,
    field "volumeName" .text, field "volumeNamespace" .text]),
  field "vsphereVolume" (.record [
    field "fsType" .text, field "storagePolicyID" .text, field "storagePolicyName" .text,
    needed "volumePath" .text])]

/-- A volume. -/
def volume : Shape := .record (needed "name" .text :: clusterVolumes ++ remoteVolumes)

/-- What pods prefer or demand: the form of the demands, and that of one preference. -/
def preference (demanded weighted : Shape) : Shape := .record [
  field "preferredDuringSchedulingIgnoredDuringExecution" (.list weighted),
  field "requiredDuringSchedulingIgnoredDuringExecution" demanded]

/-- A demand on a node. -/
def nodeTerm : Shape :=
  let expressions := Shape.list (.record [
    needed "key" .text, needed "operator" .text, field "values" texts])
  .record [field "matchExpressions" expressions, field "matchFields" expressions]

/-- A demand on the pods that share a place. -/
def podTerm : Shape := .record [
  field "labelSelector" labelSelector, field "matchLabelKeys" texts,
  field "mismatchLabelKeys" texts, field "namespaceSelector" labelSelector,
  field "namespaces" texts, needed "topologyKey" .text]

/-- What pods prefer or demand of other pods. -/
def podPreference : Shape :=
  preference (.list podTerm) (.record [needed "podAffinityTerm" podTerm, needed "weight" .int32])

/-- Where pods want to run. -/
def affinity : Shape := .record [
  field "nodeAffinity" (preference (.record [needed "nodeSelectorTerms" (.list nodeTerm)])
    (.record [needed "preference" nodeTerm, needed "weight" .int32])),
  field "podAffinity" podPreference, field "podAntiAffinity" podPreference]

/-- The spec of a pod. -/
def podSpec : Shape := .record (
  each ["activeDeadlineSeconds", "terminationGracePeriodSeconds"] .int64 ++
  each ["automountServiceAccountToken", "enableServiceLinks", "hostIPC", "hostNetwork", "hostPID",
    "hostUsers", "setHostnameAsFQDN", "shareProcessNamespace"] .flag ++
  each ["dnsPolicy", "hostname", "nodeName", "preemptionPolicy", "priorityClassName",
    "restartPolicy", "runtimeClassName", "schedulerName", "serviceAccount", "serviceAccountName",
    "subdomain"] .text ++ [
  field "affinity" affinity, needed "containers" (.list container),
  field "dnsConfig" (.record [
    field "nameservers" texts,
    field "options" (.list (.record [field "name" .text, field "value" .text])),
    field "searches" texts]),
  field "ephemeralContainers" (.list addedContainer),
  field "hostAliases" (.list (.record [field "hostnames" texts, needed "ip" .text])),
  field "imagePullSecrets" (.list localReference),
  field "initContainers" (.list container), field "nodeSelector" textMap,
  field "os" (.record [needed "name" .text]), field "overhead" textMap,
  field "priority" .int32,
  field "readinessGates" (.list (.record [needed "conditionType" .text])),
  field "resourceClaims" (.list (.record [
    needed "name" .text,
    field "source" (.record (
      each ["resourceClaimName", "resourceClaimTemplateName"] .text))])),
  field "schedulingGates" (.list (.record [needed "name" .text])),
  field "securityContext" (.record (
    each ["fsGroup", "runAsGroup", "runAsUser"] .int64 ++ [
    field "appArmorProfile" profile, field "fsGroupChangePolicy" .text,
    field "runAsNonRoot" .flag, field "seLinuxOptions" seLinux, field "seccompProfile" profile,
    field "supplementalGroups" (.list .int64),
    field "sysctls" (.list (.record [needed "name" .text, needed "value" .text])),
    field "windowsOptions" windows])),
  field "tolerations" (.list (.record (each ["effect", "key", "operator", "value"] .text ++ [
    field "tolerationSeconds" .int64]))),
  field "topologySpreadConstraints" (.list (.record [
    field "labelSelector" labelSelector, field "matchLabelKeys" texts,
    needed "maxSkew" .int32, field "minDomains" .int32, field "nodeAffinityPolicy" .text,
    field "nodeTaintsPolicy" .text, needed "topologyKey" .text,
    needed "whenUnsatisfiable" .text])),
  field "volumes" (.list volume)])

/-- A condition of an object. -/
def condition (times : List String) : Shape := .record (
  each times .time ++ each ["message", "reason"] .text ++ [
  needed "status" .text, needed "type" .text])

/-- The spec of a deployment. -/
def deploymentSpec : Shape := .record [
  field "minReadySeconds" .int32, field "paused" .flag,
  field "progressDeadlineSeconds" .int32, field "replicas" .int32,
  field "revisionHistoryLimit" .int32, needed "selector" labelSelector,
  field "strategy" (.record [
    field "rollingUpdate" (.record [
      field "maxSurge" .intOrText, field "maxUnavailable" .intOrText]),
    field "type" .text]),
  needed "template" (.record [field "metadata" .metadata, field "spec" podSpec])]

/-- The status of a deployment. -/
def deploymentStatus : Shape := .record (
  field "conditions" (.list (condition ["lastTransitionTime", "lastUpdateTime"])) ::
  field "observedGeneration" .int64 ::
  each ["availableReplicas", "collisionCount", "readyReplicas", "replicas",
    "unavailableReplicas", "updatedReplicas"] .int32)

/-- The spec of a service. -/
def serviceSpec : Shape := .record (
  each ["allocateLoadBalancerNodePorts", "publishNotReadyAddresses"] .flag ++
  each ["clusterIP", "externalName", "externalTrafficPolicy", "internalTrafficPolicy",
    "ipFamilyPolicy", "loadBalancerClass", "loadBalancerIP", "sessionAffinity",
    "trafficDistribution", "type"] .text ++
  each ["clusterIPs", "externalIPs", "ipFamilies", "loadBalancerSourceRanges"] texts ++ [
  field "healthCheckNodePort" .int32,
  field "ports" (.list (.record [
    field "appProtocol" .text, field "name" .text, field "nodePort" .int32,
    needed "port" .int32, field "protocol" .text, field "targetPort" .intOrText])),
  field "selector" textMap,
  field "sessionAffinityConfig" (.record [
    field "clientIP" (.record [field "timeoutSeconds" .int32])])])

/-- The status of a service. -/
def serviceStatus : Shape := .record [
  field "conditions" (.list (.record [
    needed "lastTransitionTime" .time, needed "message" .text,
    field "observedGeneration" .int64, needed "reason" .text, needed "status" .text,
    needed "type" .text])),
  field "loadBalancer" (.record [
    field "ingress" (.list (.record [
      field "hostname" .text, field "ip" .text, field "ipMode" .text,
      field "ports" (.list (.record [
        field "error" .text, needed "port" .int32, needed "protocol" .text]))]))])]

end Shape

end FunctionOperator
