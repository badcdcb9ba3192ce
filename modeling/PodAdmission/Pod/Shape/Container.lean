import PodAdmission.Pod.Shape.Meta

/-!
# Container fields

Containers: environment, probes and lifecycle handlers, ports, resources and security settings.
Every table is in ascending order of field names.
-/

namespace PodAdmission.Shape

def configMapKeySelector : Shape :=
  .record "ConfigMapKeySelector"
    [required "key" .text, required "name" .text, optional "optional" .flag]

def objectFieldSelector : Shape :=
  .record "ObjectFieldSelector"
    [optional "apiVersion" .text, required "fieldPath" .text]

def resourceFieldSelector : Shape :=
  .record "ResourceFieldSelector"
    [optional "containerName" .text, optional "divisor" .quantity, required "resource" .text]

def secretKeySelector : Shape :=
  .record "SecretKeySelector"
    [required "key" .text, required "name" .text, optional "optional" .flag]

def envVarSource : Shape :=
  .record "EnvVarSource"
    [optional "configMapKeyRef" configMapKeySelector, optional "fieldRef" objectFieldSelector,
     optional "resourceFieldRef" resourceFieldSelector, optional "secretKeyRef" secretKeySelector]

def envVar : Shape :=
  .record "EnvVar"
    [required "name" .text, optional "value" .text, optional "valueFrom" envVarSource]

def configMapEnvSource : Shape :=
  .record "ConfigMapEnvSource"
    [required "name" .text, optional "optional" .flag]

def secretEnvSource : Shape :=
  .record "SecretEnvSource"
    [required "name" .text, optional "optional" .flag]

def envFromSource : Shape :=
  .record "EnvFromSource"
    [optional "configMapRef" configMapEnvSource, optional "prefix" .text,
     optional "secretRef" secretEnvSource]

def execAction : Shape :=
  .record "ExecAction"
    [optional "command" (.list .text)]

def httpHeader : Shape :=
  .record "HTTPHeader"
    [required "name" .text, required "value" .text]

def httpGetAction : Shape :=
  .record "HTTPGetAction"
    [optional "host" .text, optional "httpHeaders" (.list httpHeader), optional "path" .text,
     required "port" .intOrText, optional "scheme" .text]

def sleepAction : Shape :=
  .record "SleepAction"
    [required "seconds" .int64]

def tcpSocketAction : Shape :=
  .record "TCPSocketAction"
    [optional "host" .text, required "port" .intOrText]

def lifecycleHandler : Shape :=
  .record "LifecycleHandler"
    [optional "exec" execAction, optional "httpGet" httpGetAction, optional "sleep" sleepAction,
     optional "tcpSocket" tcpSocketAction]

def lifecycle : Shape :=
  .record "Lifecycle"
    [optional "postStart" lifecycleHandler, optional "preStop" lifecycleHandler,
     optional "stopSignal" .text]

def grpcAction : Shape :=
  .record "GRPCAction"
    [required "port" .int32, optional "service" .text]

def probe : Shape :=
  .record "Probe"
    [optional "exec" execAction, optional "failureThreshold" .int32, optional "grpc" grpcAction,
     optional "httpGet" httpGetAction, optional "initialDelaySeconds" .int32,
     optional "periodSeconds" .int32, optional "successThreshold" .int32,
     optional "tcpSocket" tcpSocketAction, optional "terminationGracePeriodSeconds" .int64,
     optional "timeoutSeconds" .int32]

def containerPort : Shape :=
  .record "ContainerPort"
    [required "containerPort" .int32, optional "hostIP" .text, optional "hostPort" .int32,
     optional "name" .text, optional "protocol" .text]

def containerResizePolicy : Shape :=
  .record "ContainerResizePolicy"
    [required "resourceName" .text, required "restartPolicy" .text]

def resourceClaim : Shape :=
  .record "ResourceClaim"
    [required "name" .text, optional "request" .text]

def resourceRequirements : Shape :=
  .record "ResourceRequirements"
    [optional "claims" (.list resourceClaim), optional "limits" (.dict .quantity),
     optional "requests" (.dict .quantity)]

def appArmorProfile : Shape :=
  .record "AppArmorProfile"
    [optional "localhostProfile" .text, required "type" .text]

def capabilities : Shape :=
  .record "Capabilities"
    [optional "add" (.list .text), optional "drop" (.list .text)]

def seLinuxOptions : Shape :=
  .record "SELinuxOptions"
    [optional "level" .text, optional "role" .text, optional "type" .text, optional "user" .text]

def seccompProfile : Shape :=
  .record "SeccompProfile"
    [optional "localhostProfile" .text, required "type" .text]

def windowsSecurityContextOptions : Shape :=
  .record "WindowsSecurityContextOptions"
    [optional "gmsaCredentialSpec" .text, optional "gmsaCredentialSpecName" .text,
     optional "hostProcess" .flag, optional "runAsUserName" .text]

def securityContext : Shape :=
  .record "SecurityContext"
    [optional "allowPrivilegeEscalation" .flag, optional "appArmorProfile" appArmorProfile,
     optional "capabilities" capabilities, optional "privileged" .flag,
     optional "procMount" .text, optional "readOnlyRootFilesystem" .flag,
     optional "runAsGroup" .int64, optional "runAsNonRoot" .flag, optional "runAsUser" .int64,
     optional "seLinuxOptions" seLinuxOptions, optional "seccompProfile" seccompProfile,
     optional "windowsOptions" windowsSecurityContextOptions]

def volumeDevice : Shape :=
  .record "VolumeDevice"
    [required "devicePath" .text, required "name" .text]

def volumeMount : Shape :=
  .record "VolumeMount"
    [required "mountPath" .text, optional "mountPropagation" .text, required "name" .text,
     optional "readOnly" .flag, optional "recursiveReadOnly" .text, optional "subPath" .text,
     optional "subPathExpr" .text]

def container : Shape :=
  .record "Container"
    [optional "args" (.list .text), optional "command" (.list .text),
     optional "env" (.list envVar), optional "envFrom" (.list envFromSource),
     optional "image" .text, optional "imagePullPolicy" .text, optional "lifecycle" lifecycle,
     optional "livenessProbe" probe, required "name" .text,
     optional "ports" (.list containerPort), optional "readinessProbe" probe,
     optional "resizePolicy" (.list containerResizePolicy),
     optional "resources" resourceRequirements, optional "restartPolicy" .text,
     optional "securityContext" securityContext, optional "startupProbe" probe,
     optional "stdin" .flag, optional "stdinOnce" .flag, optional "terminationMessagePath" .text,
     optional "terminationMessagePolicy" .text, optional "tty" .flag,
     optional "volumeDevices" (.list volumeDevice), optional "volumeMounts" (.list volumeMount),
     optional "workingDir" .text]

def ephemeralContainer : Shape :=
  .record "EphemeralContainer"
    [optional "args" (.list .text), optional "command" (.list .text),
     optional "env" (.list envVar), optional "envFrom" (.list envFromSource),
     optional "image" .text, optional "imagePullPolicy" .text, optional "lifecycle" lifecycle,
     optional "livenessProbe" probe, required "name" .text,
     optional "ports" (.list containerPort), optional "readinessProbe" probe,
     optional "resizePolicy" (.list containerResizePolicy),
     optional "resources" resourceRequirements, optional "restartPolicy" .text,
     optional "securityContext" securityContext, optional "startupProbe" probe,
     optional "stdin" .flag, optional "stdinOnce" .flag, optional "targetContainerName" .text,
     optional "terminationMessagePath" .text, optional "terminationMessagePolicy" .text,
     optional "tty" .flag, optional "volumeDevices" (.list volumeDevice),
     optional "volumeMounts" (.list volumeMount), optional "workingDir" .text]

end PodAdmission.Shape
