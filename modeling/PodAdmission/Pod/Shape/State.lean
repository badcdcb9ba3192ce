import PodAdmission.Pod.Shape.Meta
import PodAdmission.Pod.Shape.Container

/-!
# Fields of the observed state

The observed state of a pod and its containers. Every table is in ascending order of field names.
-/

namespace PodAdmission.Shape

def podCondition : Shape :=
  .record "PodCondition"
    [optional "lastProbeTime" .time, optional "lastTransitionTime" .time,
     optional "message" .text, optional "observedGeneration" .int64, optional "reason" .text,
     required "status" .text, required "type" .text]

def resourceHealth : Shape :=
  .record "ResourceHealth"
    [optional "health" .text, required "resourceID" .text]

def resourceStatus : Shape :=
  .record "ResourceStatus"
    [required "name" .text, optional "resources" (.list resourceHealth)]

def containerStateRunning : Shape :=
  .record "ContainerStateRunning"
    [optional "startedAt" .time]

def containerStateTerminated : Shape :=
  .record "ContainerStateTerminated"
    [optional "containerID" .text, required "exitCode" .int32, optional "finishedAt" .time,
     optional "message" .text, optional "reason" .text, optional "signal" .int32,
     optional "startedAt" .time]

def containerStateWaiting : Shape :=
  .record "ContainerStateWaiting"
    [optional "message" .text, optional "reason" .text]

def containerState : Shape :=
  .record "ContainerState"
    [optional "running" containerStateRunning, optional "terminated" containerStateTerminated,
     optional "waiting" containerStateWaiting]

def linuxContainerUser : Shape :=
  .record "LinuxContainerUser"
    [required "gid" .int64, optional "supplementalGroups" (.list .int64), required "uid" .int64]

def containerUser : Shape :=
  .record "ContainerUser"
    [optional "linux" linuxContainerUser]

def volumeMountStatus : Shape :=
  .record "VolumeMountStatus"
    [required "mountPath" .text, required "name" .text, optional "readOnly" .flag,
     optional "recursiveReadOnly" .text]

def containerStatus : Shape :=
  .record "ContainerStatus"
    [optional "allocatedResources" (.dict .quantity),
     optional "allocatedResourcesStatus" (.list resourceStatus), optional "containerID" .text,
     required "image" .text, required "imageID" .text, optional "lastState" containerState,
     required "name" .text, required "ready" .flag, optional "resources" resourceRequirements,
     required "restartCount" .int32, optional "started" .flag, optional "state" containerState,
     optional "stopSignal" .text, optional "user" containerUser,
     optional "volumeMounts" (.list volumeMountStatus)]

def hostIP : Shape :=
  .record "HostIP"
    [required "ip" .text]

def podIP : Shape :=
  .record "PodIP"
    [required "ip" .text]

def podResourceClaimStatus : Shape :=
  .record "PodResourceClaimStatus"
    [required "name" .text, optional "resourceClaimName" .text]

def podStatus : Shape :=
  .record "PodStatus"
    [optional "conditions" (.list podCondition),
     optional "containerStatuses" (.list containerStatus),
     optional "ephemeralContainerStatuses" (.list containerStatus), optional "hostIP" .text,
     optional "hostIPs" (.list hostIP), optional "initContainerStatuses" (.list containerStatus),
     optional "message" .text, optional "nominatedNodeName" .text,
     optional "observedGeneration" .int64, optional "phase" .text, optional "podIP" .text,
     optional "podIPs" (.list podIP), optional "qosClass" .text, optional "reason" .text,
     optional "resize" .text, optional "resourceClaimStatuses" (.list podResourceClaimStatus),
     optional "startTime" .time]

end PodAdmission.Shape
