import PodAdmission.Pod.Shape.Container
import PodAdmission.Pod.Shape.Volume
import PodAdmission.Pod.Shape.Scheduling

/-!
# Fields of the specification

The specification of a pod. Every table is in ascending order of field names.
-/

namespace PodAdmission.Shape

def podDNSConfigOption : Shape :=
  .record "PodDNSConfigOption"
    [optional "name" .text, optional "value" .text]

def podDNSConfig : Shape :=
  .record "PodDNSConfig"
    [optional "nameservers" (.list .text), optional "options" (.list podDNSConfigOption),
     optional "searches" (.list .text)]

def hostAlias : Shape :=
  .record "HostAlias"
    [optional "hostnames" (.list .text), required "ip" .text]

def podOS : Shape :=
  .record "PodOS"
    [required "name" .text]

def podResourceClaim : Shape :=
  .record "PodResourceClaim"
    [required "name" .text, optional "resourceClaimName" .text,
     optional "resourceClaimTemplateName" .text]

def sysctl : Shape :=
  .record "Sysctl"
    [required "name" .text, required "value" .text]

def podSecurityContext : Shape :=
  .record "PodSecurityContext"
    [optional "appArmorProfile" appArmorProfile, optional "fsGroup" .int64,
     optional "fsGroupChangePolicy" .text, optional "runAsGroup" .int64,
     optional "runAsNonRoot" .flag, optional "runAsUser" .int64,
     optional "seLinuxChangePolicy" .text, optional "seLinuxOptions" seLinuxOptions,
     optional "seccompProfile" seccompProfile, optional "supplementalGroups" (.list .int64),
     optional "supplementalGroupsPolicy" .text, optional "sysctls" (.list sysctl),
     optional "windowsOptions" windowsSecurityContextOptions]

def podSpec : Shape :=
  .record "PodSpec"
    [optional "activeDeadlineSeconds" .int64, optional "affinity" affinity,
     optional "automountServiceAccountToken" .flag, required "containers" (.list container),
     optional "dnsConfig" podDNSConfig, optional "dnsPolicy" .text,
     optional "enableServiceLinks" .flag,
     optional "ephemeralContainers" (.list ephemeralContainer),
     optional "hostAliases" (.list hostAlias), optional "hostIPC" .flag,
     optional "hostNetwork" .flag, optional "hostPID" .flag, optional "hostUsers" .flag,
     optional "hostname" .text, optional "imagePullSecrets" (.list localObjectReference),
     optional "initContainers" (.list container), optional "nodeName" .text,
     optional "nodeSelector" (.dict .text), optional "os" podOS,
     optional "overhead" (.dict .quantity), optional "preemptionPolicy" .text,
     optional "priority" .int32, optional "priorityClassName" .text,
     optional "readinessGates" (.list podReadinessGate),
     optional "resourceClaims" (.list podResourceClaim),
     optional "resources" resourceRequirements, optional "restartPolicy" .text,
     optional "runtimeClassName" .text, optional "schedulerName" .text,
     optional "schedulingGates" (.list podSchedulingGate),
     optional "securityContext" podSecurityContext, optional "serviceAccount" .text,
     optional "serviceAccountName" .text, optional "setHostnameAsFQDN" .flag,
     optional "shareProcessNamespace" .flag, optional "subdomain" .text,
     optional "terminationGracePeriodSeconds" .int64, optional "tolerations" (.list toleration),
     optional "topologySpreadConstraints" (.list topologySpreadConstraint),
     optional "volumes" (.list volume)]

end PodAdmission.Shape
