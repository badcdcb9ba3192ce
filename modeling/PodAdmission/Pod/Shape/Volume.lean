import PodAdmission.Pod.Shape.Container

/-!
# Volume fields

Volumes and their sources. Every table is in ascending order of field names.
-/

namespace PodAdmission.Shape

def awsElasticBlockStoreVolumeSource : Shape :=
  .record "AWSElasticBlockStoreVolumeSource"
    [optional "fsType" .text, optional "partition" .int32, optional "readOnly" .flag,
     required "volumeID" .text]

def azureDiskVolumeSource : Shape :=
  .record "AzureDiskVolumeSource"
    [optional "cachingMode" .text, required "diskName" .text, required "diskURI" .text,
     optional "fsType" .text, optional "kind" .text, optional "readOnly" .flag]

def azureFileVolumeSource : Shape :=
  .record "AzureFileVolumeSource"
    [optional "readOnly" .flag, required "secretName" .text, required "shareName" .text]

def cephFSVolumeSource : Shape :=
  .record "CephFSVolumeSource"
    [required "monitors" (.list .text), optional "path" .text, optional "readOnly" .flag,
     optional "secretFile" .text, optional "secretRef" localObjectReference,
     optional "user" .text]

def cinderVolumeSource : Shape :=
  .record "CinderVolumeSource"
    [optional "fsType" .text, optional "readOnly" .flag,
     optional "secretRef" localObjectReference, required "volumeID" .text]

def keyToPath : Shape :=
  .record "KeyToPath"
    [required "key" .text, optional "mode" .int32, required "path" .text]

def configMapVolumeSource : Shape :=
  .record "ConfigMapVolumeSource"
    [optional "defaultMode" .int32, optional "items" (.list keyToPath), required "name" .text,
     optional "optional" .flag]

def csiVolumeSource : Shape :=
  .record "CSIVolumeSource"
    [required "driver" .text, optional "fsType" .text,
     optional "nodePublishSecretRef" localObjectReference, optional "readOnly" .flag,
     optional "volumeAttributes" (.dict .text)]

def downwardAPIVolumeFile : Shape :=
  .record "DownwardAPIVolumeFile"
    [optional "fieldRef" objectFieldSelector, optional "mode" .int32, required "path" .text,
     optional "resourceFieldRef" resourceFieldSelector]

def downwardAPIVolumeSource : Shape :=
  .record "DownwardAPIVolumeSource"
    [optional "defaultMode" .int32, optional "items" (.list downwardAPIVolumeFile)]

def emptyDirVolumeSource : Shape :=
  .record "EmptyDirVolumeSource"
    [optional "medium" .text, optional "sizeLimit" .quantity]

def typedLocalObjectReference : Shape :=
  .record "TypedLocalObjectReference"
    [optional "apiGroup" .text, required "kind" .text, required "name" .text]

def typedObjectReference : Shape :=
  .record "TypedObjectReference"
    [optional "apiGroup" .text, required "kind" .text, required "name" .text,
     optional "namespace" .text]

def volumeResourceRequirements : Shape :=
  .record "VolumeResourceRequirements"
    [optional "limits" (.dict .quantity), optional "requests" (.dict .quantity)]

def persistentVolumeClaimSpec : Shape :=
  .record "PersistentVolumeClaimSpec"
    [optional "accessModes" (.list .text), optional "dataSource" typedLocalObjectReference,
     optional "dataSourceRef" typedObjectReference,
     optional "resources" volumeResourceRequirements, optional "selector" labelSelector,
     optional "storageClassName" .text, optional "volumeAttributesClassName" .text,
     optional "volumeMode" .text, optional "volumeName" .text]

def persistentVolumeClaimTemplate : Shape :=
  .record "PersistentVolumeClaimTemplate"
    [optional "metadata" objectMeta, required "spec" persistentVolumeClaimSpec]

def ephemeralVolumeSource : Shape :=
  .record "EphemeralVolumeSource"
    [optional "volumeClaimTemplate" persistentVolumeClaimTemplate]

def fcVolumeSource : Shape :=
  .record "FCVolumeSource"
    [optional "fsType" .text, optional "lun" .int32, optional "readOnly" .flag,
     optional "targetWWNs" (.list .text), optional "wwids" (.list .text)]

def flexVolumeSource : Shape :=
  .record "FlexVolumeSource"
    [required "driver" .text, optional "fsType" .text, optional "options" (.dict .text),
     optional "readOnly" .flag, optional "secretRef" localObjectReference]

def flockerVolumeSource : Shape :=
  .record "FlockerVolumeSource"
    [optional "datasetName" .text, optional "datasetUUID" .text]

def gcePersistentDiskVolumeSource : Shape :=
  .record "GCEPersistentDiskVolumeSource"
    [optional "fsType" .text, optional "partition" .int32, required "pdName" .text,
     optional "readOnly" .flag]

def gitRepoVolumeSource : Shape :=
  .record "GitRepoVolumeSource"
    [optional "directory" .text, required "repository" .text, optional "revision" .text]

def glusterfsVolumeSource : Shape :=
  .record "GlusterfsVolumeSource"
    [required "endpoints" .text, required "path" .text, optional "readOnly" .flag]

def hostPathVolumeSource : Shape :=
  .record "HostPathVolumeSource"
    [required "path" .text, optional "type" .text]

def imageVolumeSource : Shape :=
  .record "ImageVolumeSource"
    [optional "pullPolicy" .text, optional "reference" .text]

def iscsiVolumeSource : Shape :=
  .record "ISCSIVolumeSource"
    [optional "chapAuthDiscovery" .flag, optional "chapAuthSession" .flag,
     optional "fsType" .text, optional "initiatorName" .text, required "iqn" .text,
     optional "iscsiInterface" .text, required "lun" .int32, optional "portals" (.list .text),
     optional "readOnly" .flag, optional "secretRef" localObjectReference,
     required "targetPortal" .text]

def nfsVolumeSource : Shape :=
  .record "NFSVolumeSource"
    [required "path" .text, optional "readOnly" .flag, required "server" .text]

def persistentVolumeClaimVolumeSource : Shape :=
  .record "PersistentVolumeClaimVolumeSource"
    [required "claimName" .text, optional "readOnly" .flag]

def photonPersistentDiskVolumeSource : Shape :=
  .record "PhotonPersistentDiskVolumeSource"
    [optional "fsType" .text, required "pdID" .text]

def portworxVolumeSource : Shape :=
  .record "PortworxVolumeSource"
    [optional "fsType" .text, optional "readOnly" .flag, required "volumeID" .text]

def clusterTrustBundleProjection : Shape :=
  .record "ClusterTrustBundleProjection"
    [optional "labelSelector" labelSelector, optional "name" .text, optional "optional" .flag,
     required "path" .text, optional "signerName" .text]

def configMapProjection : Shape :=
  .record "ConfigMapProjection"
    [optional "items" (.list keyToPath), required "name" .text, optional "optional" .flag]

def downwardAPIProjection : Shape :=
  .record "DownwardAPIProjection"
    [optional "items" (.list downwardAPIVolumeFile)]

def secretProjection : Shape :=
  .record "SecretProjection"
    [optional "items" (.list keyToPath), required "name" .text, optional "optional" .flag]

def serviceAccountTokenProjection : Shape :=
  .record "ServiceAccountTokenProjection"
    [optional "audience" .text, optional "expirationSeconds" .int64, required "path" .text]

def volumeProjection : Shape :=
  .record "VolumeProjection"
    [optional "clusterTrustBundle" clusterTrustBundleProjection,
     optional "configMap" configMapProjection, optional "downwardAPI" downwardAPIProjection,
     optional "secret" secretProjection,
     optional "serviceAccountToken" serviceAccountTokenProjection]

def projectedVolumeSource : Shape :=
  .record "ProjectedVolumeSource"
    [optional "defaultMode" .int32, optional "sources" (.list volumeProjection)]

def quobyteVolumeSource : Shape :=
  .record "QuobyteVolumeSource"
    [optional "group" .text, optional "readOnly" .flag, required "registry" .text,
     optional "tenant" .text, optional "user" .text, required "volume" .text]

def rbdVolumeSource : Shape :=
  .record "RBDVolumeSource"
    [optional "fsType" .text, required "image" .text, optional "keyring" .text,
     required "monitors" (.list .text), optional "pool" .text, optional "readOnly" .flag,
     optional "secretRef" localObjectReference, optional "user" .text]

def scaleIOVolumeSource : Shape :=
  .record "ScaleIOVolumeSource"
    [optional "fsType" .text, required "gateway" .text, optional "protectionDomain" .text,
     optional "readOnly" .flag, required "secretRef" localObjectReference,
     optional "sslEnabled" .flag, optional "storageMode" .text, optional "storagePool" .text,
     required "system" .text, optional "volumeName" .text]

def secretVolumeSource : Shape :=
  .record "SecretVolumeSource"
    [optional "defaultMode" .int32, optional "items" (.list keyToPath), optional "optional" .flag,
     optional "secretName" .text]

def storageOSVolumeSource : Shape :=
  .record "StorageOSVolumeSource"
    [optional "fsType" .text, optional "readOnly" .flag,
     optional "secretRef" localObjectReference, optional "volumeName" .text,
     optional "volumeNamespace" .text]

def vsphereVirtualDiskVolumeSource : Shape :=
  .record "VsphereVirtualDiskVolumeSource"
    [optional "fsType" .text, optional "storagePolicyID" .text,
     optional "storagePolicyName" .text, required "volumePath" .text]

def volume : Shape :=
  .record "Volume"
    [optional "awsElasticBlockStore" awsElasticBlockStoreVolumeSource,
     optional "azureDisk" azureDiskVolumeSource, optional "azureFile" azureFileVolumeSource,
     optional "cephfs" cephFSVolumeSource, optional "cinder" cinderVolumeSource,
     optional "configMap" configMapVolumeSource, optional "csi" csiVolumeSource,
     optional "downwardAPI" downwardAPIVolumeSource, optional "emptyDir" emptyDirVolumeSource,
     optional "ephemeral" ephemeralVolumeSource, optional "fc" fcVolumeSource,
     optional "flexVolume" flexVolumeSource, optional "flocker" flockerVolumeSource,
     optional "gcePersistentDisk" gcePersistentDiskVolumeSource,
     optional "gitRepo" gitRepoVolumeSource, optional "glusterfs" glusterfsVolumeSource,
     optional "hostPath" hostPathVolumeSource, optional "image" imageVolumeSource,
     optional "iscsi" iscsiVolumeSource, required "name" .text, optional "nfs" nfsVolumeSource,
     optional "persistentVolumeClaim" persistentVolumeClaimVolumeSource,
     optional "photonPersistentDisk" photonPersistentDiskVolumeSource,
     optional "portworxVolume" portworxVolumeSource, optional "projected" projectedVolumeSource,
     optional "quobyte" quobyteVolumeSource, optional "rbd" rbdVolumeSource,
     optional "scaleIO" scaleIOVolumeSource, optional "secret" secretVolumeSource,
     optional "storageos" storageOSVolumeSource,
     optional "vsphereVolume" vsphereVirtualDiskVolumeSource]

end PodAdmission.Shape
