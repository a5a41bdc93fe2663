/-
**The shape of a pod.**

Main definitions:

* `Sidecar.Cluster.Shape.objectMeta` — the metadata of any object;
* `Sidecar.Cluster.Shape.labelSelector` — a selector of objects by their labels;
* `Sidecar.Cluster.Shape.pod` — a pod, with all that its specification and status may hold.
-/

import Sidecar.Cluster.Shape

set_option autoImplicit false

namespace Sidecar.Cluster.Shape

/-! ### Metadata -/

/-- The metadata of an object. -/
def objectMeta : Shape :=
  .object [("annotations", textMap), ("creationTimestamp", .time),
    ("deletionGracePeriodSeconds", .int64), ("deletionTimestamp", .time), ("finalizers", texts),
    ("generateName", .text), ("generation", .int64), ("labels", textMap),
    ("managedFields", .list (.object [("apiVersion", .text), ("fieldsType", .text),
      ("fieldsV1", .any), ("manager", .text), ("operation", .text), ("subresource", .text),
      ("time", .time)])),
    ("name", .text), ("namespace", .text),
    ("ownerReferences", .list (.object [("apiVersion", .text), ("blockOwnerDeletion", .bool),
      ("controller", .bool), ("kind", .text), ("name", .text), ("uid", .text)])),
    ("resourceVersion", .text), ("selfLink", .text), ("uid", .text)]

/-! ### Selectors and scheduling -/

/-- A requirement of a selector. -/
def requirement : Shape :=
  .object [("key", .text), ("operator", .text), ("values", texts)]

/-- A selector of objects by their labels. -/
def labelSelector : Shape :=
  .object [("matchExpressions", .list requirement), ("matchLabels", textMap)]

/-- One alternative of a node selector. -/
def nodeSelectorTerm : Shape :=
  .object [("matchExpressions", .list requirement), ("matchFields", .list requirement)]

/-- One term of an affinity between pods. -/
def podAffinityTerm : Shape :=
  .object [("labelSelector", labelSelector), ("matchLabelKeys", texts),
    ("mismatchLabelKeys", texts), ("namespaceSelector", labelSelector), ("namespaces", texts),
    ("topologyKey", .text)]

/-- Affinities to other pods. -/
def podAffinity : Shape :=
  .object [("preferredDuringSchedulingIgnoredDuringExecution",
      .list (.object [("podAffinityTerm", podAffinityTerm), ("weight", .int32)])),
    ("requiredDuringSchedulingIgnoredDuringExecution", .list podAffinityTerm)]

/-- Affinities to nodes. -/
def nodeAffinity : Shape :=
  .object [("preferredDuringSchedulingIgnoredDuringExecution",
      .list (.object [("preference", nodeSelectorTerm), ("weight", .int32)])),
    ("requiredDuringSchedulingIgnoredDuringExecution",
      .object [("nodeSelectorTerms", .list nodeSelectorTerm)])]

/-- All affinities of a pod. -/
def affinity : Shape :=
  .object [("nodeAffinity", nodeAffinity), ("podAffinity", podAffinity),
    ("podAntiAffinity", podAffinity)]

/-- A taint that a pod tolerates. -/
def toleration : Shape :=
  .object [("effect", .text), ("key", .text), ("operator", .text), ("tolerationSeconds", .int64),
    ("value", .text)]

/-- How evenly pods spread over the cluster. -/
def topologySpread : Shape :=
  .object [("labelSelector", labelSelector), ("matchLabelKeys", texts), ("maxSkew", .int32),
    ("minDomains", .int32), ("nodeAffinityPolicy", .text), ("nodeTaintsPolicy", .text),
    ("topologyKey", .text), ("whenUnsatisfiable", .text)]

/-! ### Containers -/

/-- What a container uses of its node. -/
def resources : Shape :=
  .object [("claims", .list (textFields ["name", "request"])), ("limits", textMap),
    ("requests", textMap)]

/-- A key of a config map or secret. -/
def keyRef : Shape :=
  .object [("key", .text), ("name", .text), ("optional", .bool)]

/-- A whole config map or secret. -/
def mapRef : Shape :=
  .object [("name", .text), ("optional", .bool)]

/-- A field of an object. -/
def fieldRef : Shape := textFields ["apiVersion", "fieldPath"]

/-- A resource of a container. -/
def resourceFieldRef : Shape := textFields ["containerName", "divisor", "resource"]

/-- A variable of an environment. -/
def envVar : Shape :=
  .object [("name", .text), ("value", .text),
    ("valueFrom", .object [("configMapKeyRef", keyRef), ("fieldRef", fieldRef),
      ("resourceFieldRef", resourceFieldRef), ("secretKeyRef", keyRef)])]

/-- The variables of a whole config map or secret. -/
def envFrom : Shape :=
  .object [("configMapRef", mapRef), ("prefix", .text), ("secretRef", mapRef)]

/-- A command to run. -/
def execAction : Shape := .object [("command", texts)]

/-- An HTTP request to make. -/
def httpGetAction : Shape :=
  .object [("host", .text), ("httpHeaders", .list (textFields ["name", "value"])),
    ("path", .text), ("port", .intOrText), ("scheme", .text)]

/-- A connection to open. -/
def tcpSocketAction : Shape := .object [("host", .text), ("port", .intOrText)]

/-- What to do at the start or end of a container. -/
def lifecycleHandler : Shape :=
  .object [("exec", execAction), ("httpGet", httpGetAction),
    ("sleep", .object [("seconds", .int64)]), ("tcpSocket", tcpSocketAction)]

/-- A check of a container. -/
def probe : Shape :=
  .object [("exec", execAction), ("failureThreshold", .int32),
    ("grpc", .object [("port", .int32), ("service", .text)]), ("httpGet", httpGetAction),
    ("initialDelaySeconds", .int32), ("periodSeconds", .int32), ("successThreshold", .int32),
    ("tcpSocket", tcpSocketAction), ("terminationGracePeriodSeconds", .int64),
    ("timeoutSeconds", .int32)]

/-- A security profile. -/
def profile : Shape := textFields ["localhostProfile", "type"]

/-- Security labels. -/
def seLinuxOptions : Shape := textFields ["level", "role", "type", "user"]

/-- Options on Windows nodes. -/
def windowsOptions : Shape :=
  .object [("gmsaCredentialSpec", .text), ("gmsaCredentialSpecName", .text),
    ("hostProcess", .bool), ("runAsUserName", .text)]

/-- What a container may do. -/
def securityContext : Shape :=
  .object [("allowPrivilegeEscalation", .bool), ("appArmorProfile", profile),
    ("capabilities", .object [("add", texts), ("drop", texts)]), ("privileged", .bool),
    ("procMount", .text), ("readOnlyRootFilesystem", .bool), ("runAsGroup", .int64),
    ("runAsNonRoot", .bool), ("runAsUser", .int64), ("seLinuxOptions", seLinuxOptions),
    ("seccompProfile", profile), ("windowsOptions", windowsOptions)]

/-- A volume mounted into a container. -/
def volumeMount : Shape :=
  .object [("mountPath", .text), ("mountPropagation", .text), ("name", .text),
    ("readOnly", .bool), ("recursiveReadOnly", .text), ("subPath", .text),
    ("subPathExpr", .text)]

/-- The members of every kind of container. -/
def containerFields : List (String × Shape) :=
  [("args", texts), ("command", texts), ("env", .list envVar), ("envFrom", .list envFrom),
    ("image", .text), ("imagePullPolicy", .text),
    ("lifecycle", .object [("postStart", lifecycleHandler), ("preStop", lifecycleHandler),
      ("stopSignal", .text)]),
    ("livenessProbe", probe), ("name", .text),
    ("ports", .list (.object [("containerPort", .int32), ("hostIP", .text), ("hostPort", .int32),
      ("name", .text), ("protocol", .text)])),
    ("readinessProbe", probe),
    ("resizePolicy", .list (textFields ["resourceName", "restartPolicy"])),
    ("resources", resources), ("restartPolicy", .text), ("securityContext", securityContext),
    ("startupProbe", probe), ("stdin", .bool), ("stdinOnce", .bool),
    ("terminationMessagePath", .text), ("terminationMessagePolicy", .text), ("tty", .bool),
    ("volumeDevices", .list (textFields ["devicePath", "name"])),
    ("volumeMounts", .list volumeMount), ("workingDir", .text)]

/-- A container. -/
def container : Shape := .object containerFields

/-- A container that was added to a running pod. -/
def ephemeralContainer : Shape := .object (containerFields ++ [("targetContainerName", .text)])

/-! ### Volumes -/

/-- Keys of a config map or secret and the files that they become. -/
def keyItems : Shape :=
  .list (.object [("key", .text), ("mode", .int32), ("path", .text)])

/-- A reference to an object of the same namespace. -/
def localRef : Shape := textFields ["name"]

/-- Files that show fields of the pod. -/
def downwardItems : Shape :=
  .list (.object [("fieldRef", fieldRef), ("mode", .int32), ("path", .text),
    ("resourceFieldRef", resourceFieldRef)])

/-- A claim made for the pod. -/
def claimTemplate : Shape :=
  .object [("metadata", objectMeta),
    ("spec", .object [("accessModes", texts),
      ("dataSource", textFields ["apiGroup", "kind", "name"]),
      ("dataSourceRef", textFields ["apiGroup", "kind", "name", "namespace"]),
      ("resources", .object [("limits", textMap), ("requests", textMap)]),
      ("selector", labelSelector), ("storageClassName", .text),
      ("volumeAttributesClassName", .text), ("volumeMode", .text), ("volumeName", .text)])]

/-- One source of a volume with several. -/
def projectedSource : Shape :=
  .object [("clusterTrustBundle", .object [("labelSelector", labelSelector), ("name", .text),
      ("optional", .bool), ("path", .text), ("signerName", .text)]),
    ("configMap", .object [("items", keyItems), ("name", .text), ("optional", .bool)]),
    ("downwardAPI", .object [("items", downwardItems)]),
    ("secret", .object [("items", keyItems), ("name", .text), ("optional", .bool)]),
    ("serviceAccountToken", .object [("audience", .text), ("expirationSeconds", .int64),
      ("path", .text)])]

/-- A volume of a pod. -/
def volume : Shape :=
  .object [("awsElasticBlockStore", .object [("fsType", .text), ("partition", .int32),
      ("readOnly", .bool), ("volumeID", .text)]),
    ("azureDisk", .object [("cachingMode", .text), ("diskName", .text), ("diskURI", .text),
      ("fsType", .text), ("kind", .text), ("readOnly", .bool)]),
    ("azureFile", .object [("readOnly", .bool), ("secretName", .text), ("shareName", .text)]),
    ("cephfs", .object [("monitors", texts), ("path", .text), ("readOnly", .bool),
      ("secretFile", .text), ("secretRef", localRef), ("user", .text)]),
    ("cinder", .object [("fsType", .text), ("readOnly", .bool), ("secretRef", localRef),
      ("volumeID", .text)]),
    ("configMap", .object [("defaultMode", .int32), ("items", keyItems), ("name", .text),
      ("optional", .bool)]),
    ("csi", .object [("driver", .text), ("fsType", .text), ("nodePublishSecretRef", localRef),
      ("readOnly", .bool), ("volumeAttributes", textMap)]),
    ("downwardAPI", .object [("defaultMode", .int32), ("items", downwardItems)]),
    ("emptyDir", textFields ["medium", "sizeLimit"]),
    ("ephemeral", .object [("volumeClaimTemplate", claimTemplate)]),
    ("fc", .object [("fsType", .text), ("lun", .int32), ("readOnly", .bool),
      ("targetWWNs", texts), ("wwids", texts)]),
    ("flexVolume", .object [("driver", .text), ("fsType", .text), ("options", textMap),
      ("readOnly", .bool), ("secretRef", localRef)]),
    ("flocker", textFields ["datasetName", "datasetUUID"]),
    ("gcePersistentDisk", .object [("fsType", .text), ("partition", .int32), ("pdName", .text),
      ("readOnly", .bool)]),
    ("gitRepo", textFields ["directory", "repository", "revision"]),
    ("glusterfs", .object [("endpoints", .text), ("path", .text), ("readOnly", .bool)]),
    ("hostPath", textFields ["path", "type"]),
    ("image", textFields ["pullPolicy", "reference"]),
    ("iscsi", .object [("chapAuthDiscovery", .bool), ("chapAuthSession", .bool),
      ("fsType", .text), ("initiatorName", .text), ("iqn", .text), ("iscsiInterface", .text),
      ("lun", .int32), ("portals", texts), ("readOnly", .bool), ("secretRef", localRef),
      ("targetPortal", .text)]),
    ("name", .text),
    ("nfs", .object [("path", .text), ("readOnly", .bool), ("server", .text)]),
    ("persistentVolumeClaim", .object [("claimName", .text), ("readOnly", .bool)]),
    ("photonPersistentDisk", textFields ["fsType", "pdID"]),
    ("portworxVolume", .object [("fsType", .text), ("readOnly", .bool), ("volumeID", .text)]),
    ("projected", .object [("defaultMode", .int32), ("sources", .list projectedSource)]),
    ("quobyte", .object [("group", .text), ("readOnly", .bool), ("registry", .text),
      ("tenant", .text), ("user", .text), ("volume", .text)]),
    ("rbd", .object [("fsType", .text), ("image", .text), ("keyring", .text),
      ("monitors", texts), ("pool", .text), ("readOnly", .bool), ("secretRef", localRef),
      ("user", .text)]),
    ("scaleIO", .object [("fsType", .text), ("gateway", .text), ("protectionDomain", .text),
      ("readOnly", .bool), ("secretRef", localRef), ("sslEnabled", .bool),
      ("storageMode", .text), ("storagePool", .text), ("system", .text),
      ("volumeName", .text)]),
    ("secret", .object [("defaultMode", .int32), ("items", keyItems), ("optional", .bool),
      ("secretName", .text)]),
    ("storageos", .object [("fsType", .text), ("readOnly", .bool), ("secretRef", localRef),
      ("volumeName", .text), ("volumeNamespace", .text)]),
    ("vsphereVolume",
      textFields ["fsType", "storagePolicyID", "storagePolicyName", "volumePath"])]

/-! ### Pods -/

/-- What a pod may do. -/
def podSecurityContext : Shape :=
  .object [("appArmorProfile", profile), ("fsGroup", .int64), ("fsGroupChangePolicy", .text),
    ("runAsGroup", .int64), ("runAsNonRoot", .bool), ("runAsUser", .int64),
    ("seLinuxChangePolicy", .text), ("seLinuxOptions", seLinuxOptions),
    ("seccompProfile", profile), ("supplementalGroups", .list .int64),
    ("supplementalGroupsPolicy", .text), ("sysctls", .list (textFields ["name", "value"])),
    ("windowsOptions", windowsOptions)]

/-- The specification of a pod. -/
def podSpec : Shape :=
  .object [("activeDeadlineSeconds", .int64), ("affinity", affinity),
    ("automountServiceAccountToken", .bool), ("containers", .list container),
    ("dnsConfig", .object [("nameservers", texts),
      ("options", .list (textFields ["name", "value"])), ("searches", texts)]),
    ("dnsPolicy", .text), ("enableServiceLinks", .bool),
    ("ephemeralContainers", .list ephemeralContainer),
    ("hostAliases", .list (.object [("hostnames", texts), ("ip", .text)])), ("hostIPC", .bool),
    ("hostNetwork", .bool), ("hostPID", .bool), ("hostUsers", .bool), ("hostname", .text),
    ("imagePullSecrets", .list localRef), ("initContainers", .list container),
    ("nodeName", .text), ("nodeSelector", textMap), ("os", localRef), ("overhead", textMap),
    ("preemptionPolicy", .text), ("priority", .int32), ("priorityClassName", .text),
    ("readinessGates", .list (textFields ["conditionType"])),
    ("resourceClaims",
      .list (textFields ["name", "resourceClaimName", "resourceClaimTemplateName"])),
    ("resources", resources), ("restartPolicy", .text), ("runtimeClassName", .text),
    ("schedulerName", .text), ("schedulingGates", .list localRef),
    ("securityContext", podSecurityContext), ("serviceAccount", .text),
    ("serviceAccountName", .text), ("setHostnameAsFQDN", .bool),
    ("shareProcessNamespace", .bool), ("subdomain", .text),
    ("terminationGracePeriodSeconds", .int64), ("tolerations", .list toleration),
    ("topologySpreadConstraints", .list topologySpread), ("volumes", .list volume)]

/-- What a container is doing. -/
def containerState : Shape :=
  .object [("running", .object [("startedAt", .time)]),
    ("terminated", .object [("containerID", .text), ("exitCode", .int32), ("finishedAt", .time),
      ("message", .text), ("reason", .text), ("signal", .int32), ("startedAt", .time)]),
    ("waiting", textFields ["message", "reason"])]

/-- How a container is. -/
def containerStatus : Shape :=
  .object [("allocatedResources", textMap),
    ("allocatedResourcesStatus", .list (.object [("name", .text),
      ("resources", .list (textFields ["health", "resourceID"]))])),
    ("containerID", .text), ("image", .text), ("imageID", .text), ("lastState", containerState),
    ("name", .text), ("ready", .bool), ("resources", resources), ("restartCount", .int32),
    ("started", .bool), ("state", containerState), ("stopSignal", .text),
    ("user", .object [("linux", .object [("gid", .int64), ("supplementalGroups", .list .int64),
      ("uid", .int64)])]),
    ("volumeMounts", .list (.object [("mountPath", .text), ("name", .text), ("readOnly", .bool),
      ("recursiveReadOnly", .text)]))]

/-- How a pod is. -/
def podStatus : Shape :=
  .object [("conditions", .list (.object [("lastProbeTime", .time),
      ("lastTransitionTime", .time), ("message", .text), ("observedGeneration", .int64),
      ("reason", .text), ("status", .text), ("type", .text)])),
    ("containerStatuses", .list containerStatus),
    ("ephemeralContainerStatuses", .list containerStatus), ("hostIP", .text),
    ("hostIPs", .list (textFields ["ip"])), ("initContainerStatuses", .list containerStatus),
    ("message", .text), ("nominatedNodeName", .text), ("observedGeneration", .int64),
    ("phase", .text), ("podIP", .text), ("podIPs", .list (textFields ["ip"])),
    ("qosClass", .text), ("reason", .text), ("resize", .text),
    ("resourceClaimStatuses", .list (textFields ["name", "resourceClaimName"])),
    ("startTime", .time)]

/-- A pod: its version and kind may be absent, but no others. -/
def pod : Shape :=
  .object [("apiVersion", .constant "v1"), ("kind", .constant "Pod"), ("metadata", objectMeta),
    ("spec", podSpec), ("status", podStatus)]

end Sidecar.Cluster.Shape
