import AutoscalerOperator.Kubernetes.Container
import AutoscalerOperator.Kubernetes.Metadata

namespace AutoscalerOperator.Kubernetes

namespace Shape

def localObjectReference : Shape := .record "LocalObjectReference" [("name", .text)] []

def keyToPath : Shape := .record "KeyToPath"
  [("key", .text), ("path", .text)]
  [("mode", .int32)]

def awsElasticBlockStore : Shape := .record "AWSElasticBlockStoreVolumeSource"
  [("volumeID", .text)]
  [("fsType", .text), ("partition", .int32), ("readOnly", .flag)]

def azureDisk : Shape := .record "AzureDiskVolumeSource"
  [("diskName", .text), ("diskURI", .text)]
  [("cachingMode", .text), ("fsType", .text), ("kind", .text), ("readOnly", .flag)]

def azureFile : Shape := .record "AzureFileVolumeSource"
  [("secretName", .text), ("shareName", .text)]
  [("readOnly", .flag)]

def cephFS : Shape := .record "CephFSVolumeSource"
  [("monitors", .list .text)]
  [("path", .text), ("readOnly", .flag), ("secretFile", .text),
    ("secretRef", localObjectReference), ("user", .text)]

def cinder : Shape := .record "CinderVolumeSource"
  [("volumeID", .text)]
  [("fsType", .text), ("readOnly", .flag), ("secretRef", localObjectReference)]

def csi : Shape := .record "CSIVolumeSource"
  [("driver", .text)]
  [("fsType", .text), ("nodePublishSecretRef", localObjectReference), ("readOnly", .flag),
    ("volumeAttributes", .map .text)]

def downwardAPIFile : Shape := .record "DownwardAPIVolumeFile"
  [("path", .text)]
  [("fieldRef", objectFieldSelector), ("mode", .int32),
    ("resourceFieldRef", resourceFieldSelector)]

def downwardAPI : Shape := .record "DownwardAPIVolumeSource" []
  [("defaultMode", .int32), ("items", .list downwardAPIFile)]

def ownerReference : Shape := .record "OwnerReference"
  [("apiVersion", .text), ("kind", .text), ("name", .text), ("uid", .text)]
  [("blockOwnerDeletion", .flag), ("controller", .flag)]

def objectMeta : Shape := .record "ObjectMeta" [] [
  ("annotations", .map .text),
  ("creationTimestamp", .time),
  ("deletionGracePeriodSeconds", .int64),
  ("deletionTimestamp", .time),
  ("finalizers", .list .text),
  ("generateName", .text),
  ("generation", .int64),
  ("labels", .map .text),
  ("managedFields", .list managedFieldsEntry),
  ("name", .text),
  ("namespace", .text),
  ("ownerReferences", .list ownerReference),
  ("resourceVersion", .text),
  ("selfLink", .text),
  ("uid", .text)]

def typedLocalObjectReference : Shape := .record "TypedLocalObjectReference"
  [("kind", .text), ("name", .text)]
  [("apiGroup", .text)]

def typedObjectReference : Shape := .record "TypedObjectReference"
  [("kind", .text), ("name", .text)]
  [("apiGroup", .text), ("namespace", .text)]

def volumeResources : Shape := .record "VolumeResourceRequirements" []
  [("limits", .map .quantity), ("requests", .map .quantity)]

def persistentVolumeClaimSpec : Shape := .record "PersistentVolumeClaimSpec" [] [
  ("accessModes", .list .text),
  ("dataSource", typedLocalObjectReference),
  ("dataSourceRef", typedObjectReference),
  ("resources", volumeResources),
  ("selector", labelSelector),
  ("storageClassName", .text),
  ("volumeAttributesClassName", .text),
  ("volumeMode", .text),
  ("volumeName", .text)]

def persistentVolumeClaimTemplate : Shape := .record "PersistentVolumeClaimTemplate"
  [("spec", persistentVolumeClaimSpec)]
  [("metadata", objectMeta)]

def ephemeralVolume : Shape := .record "EphemeralVolumeSource" []
  [("volumeClaimTemplate", persistentVolumeClaimTemplate)]

def fibreChannel : Shape := .record "FCVolumeSource" [] [
  ("fsType", .text),
  ("lun", .int32),
  ("readOnly", .flag),
  ("targetWWNs", .list .text),
  ("wwids", .list .text)]

def flexVolume : Shape := .record "FlexVolumeSource"
  [("driver", .text)]
  [("fsType", .text), ("options", .map .text), ("readOnly", .flag),
    ("secretRef", localObjectReference)]

def flocker : Shape := .record "FlockerVolumeSource" []
  [("datasetName", .text), ("datasetUUID", .text)]

def gcePersistentDisk : Shape := .record "GCEPersistentDiskVolumeSource"
  [("pdName", .text)]
  [("fsType", .text), ("partition", .int32), ("readOnly", .flag)]

def gitRepo : Shape := .record "GitRepoVolumeSource"
  [("repository", .text)]
  [("directory", .text), ("revision", .text)]

def glusterfs : Shape := .record "GlusterfsVolumeSource"
  [("endpoints", .text), ("path", .text)]
  [("readOnly", .flag)]

def hostPath : Shape := .record "HostPathVolumeSource" [("path", .text)] [("type", .text)]

def imageVolume : Shape := .record "ImageVolumeSource" []
  [("pullPolicy", .text), ("reference", .text)]

def iscsi : Shape := .record "ISCSIVolumeSource"
  [("iqn", .text), ("lun", .int32), ("targetPortal", .text)]
  [("chapAuthDiscovery", .flag), ("chapAuthSession", .flag), ("fsType", .text),
    ("initiatorName", .text), ("iscsiInterface", .text), ("portals", .list .text),
    ("readOnly", .flag), ("secretRef", localObjectReference)]

def nfs : Shape := .record "NFSVolumeSource"
  [("path", .text), ("server", .text)]
  [("readOnly", .flag)]

def persistentVolumeClaim : Shape := .record "PersistentVolumeClaimVolumeSource"
  [("claimName", .text)]
  [("readOnly", .flag)]

def photonPersistentDisk : Shape := .record "PhotonPersistentDiskVolumeSource"
  [("pdID", .text)]
  [("fsType", .text)]

def portworxVolume : Shape := .record "PortworxVolumeSource"
  [("volumeID", .text)]
  [("fsType", .text), ("readOnly", .flag)]

def clusterTrustBundleProjection : Shape := .record "ClusterTrustBundleProjection"
  [("path", .text)]
  [("labelSelector", labelSelector), ("name", .text), ("optional", .flag), ("signerName", .text)]

def projection (type : String) : Shape := .record type
  [("name", .text)]
  [("items", .list keyToPath), ("optional", .flag)]

def downwardAPIProjection : Shape := .record "DownwardAPIProjection" []
  [("items", .list downwardAPIFile)]

def serviceAccountTokenProjection : Shape := .record "ServiceAccountTokenProjection"
  [("path", .text)]
  [("audience", .text), ("expirationSeconds", .int64)]

def volumeProjection : Shape := .record "VolumeProjection" [] [
  ("clusterTrustBundle", clusterTrustBundleProjection),
  ("configMap", projection "ConfigMapProjection"),
  ("downwardAPI", downwardAPIProjection),
  ("secret", projection "SecretProjection"),
  ("serviceAccountToken", serviceAccountTokenProjection)]

def projected : Shape := .record "ProjectedVolumeSource" []
  [("defaultMode", .int32), ("sources", .list volumeProjection)]

def quobyte : Shape := .record "QuobyteVolumeSource"
  [("registry", .text), ("volume", .text)]
  [("group", .text), ("readOnly", .flag), ("tenant", .text), ("user", .text)]

def rbd : Shape := .record "RBDVolumeSource"
  [("image", .text), ("monitors", .list .text)]
  [("fsType", .text), ("keyring", .text), ("pool", .text), ("readOnly", .flag),
    ("secretRef", localObjectReference), ("user", .text)]

def scaleIO : Shape := .record "ScaleIOVolumeSource"
  [("gateway", .text), ("secretRef", localObjectReference), ("system", .text)]
  [("fsType", .text), ("protectionDomain", .text), ("readOnly", .flag), ("sslEnabled", .flag),
    ("storageMode", .text), ("storagePool", .text), ("volumeName", .text)]

def storageOS : Shape := .record "StorageOSVolumeSource" [] [
  ("fsType", .text),
  ("readOnly", .flag),
  ("secretRef", localObjectReference),
  ("volumeName", .text),
  ("volumeNamespace", .text)]

def vsphereVirtualDisk : Shape := .record "VsphereVirtualDiskVolumeSource"
  [("volumePath", .text)]
  [("fsType", .text), ("storagePolicyID", .text), ("storagePolicyName", .text)]

end Shape

structure SecretVolumeSource where
  defaultMode : Option Int32 := none
  items : Option (Carried (.list .keyToPath)) := none
  optional : Option Bool := none
  secretName : Option String := none
  deriving DecidableEq, Inhabited

instance : ToJson SecretVolumeSource where
  toJson r := .record [
    ("defaultMode", r.defaultMode.map toJson),
    ("items", r.items.map toJson),
    ("optional", r.optional.map toJson),
    ("secretName", r.secretName.map toJson)]

instance : OfJson SecretVolumeSource := ⟨.object "SecretVolumeSource" {} [
  .optional "defaultMode" fun r v => { r with defaultMode := v },
  .optional "items" fun r v => { r with items := v },
  .optional "optional" fun r v => { r with optional := v },
  .optional "secretName" fun r v => { r with secretName := v }]⟩

structure ConfigMapVolumeSource where
  defaultMode : Option Int32 := none
  items : Option (Carried (.list .keyToPath)) := none
  name : String := ""
  optional : Option Bool := none
  deriving DecidableEq, Inhabited

instance : ToJson ConfigMapVolumeSource where
  toJson r := .record [
    ("defaultMode", r.defaultMode.map toJson),
    ("items", r.items.map toJson),
    ("name", some (toJson r.name)),
    ("optional", r.optional.map toJson)]

instance : OfJson ConfigMapVolumeSource := ⟨.object "ConfigMapVolumeSource" {} [
  .optional "defaultMode" fun r v => { r with defaultMode := v },
  .optional "items" fun r v => { r with items := v },
  .lenient "name" "" fun r v => { r with name := v },
  .optional "optional" fun r v => { r with optional := v }]⟩

structure EmptyDirVolumeSource where
  medium : Option String := none
  sizeLimit : Option Quantity := none
  deriving DecidableEq, Inhabited

instance : ToJson EmptyDirVolumeSource where
  toJson r := .record [
    ("medium", r.medium.map toJson),
    ("sizeLimit", r.sizeLimit.map toJson)]

instance : OfJson EmptyDirVolumeSource := ⟨.object "EmptyDirVolumeSource" {} [
  .optional "medium" fun r v => { r with medium := v },
  .optional "sizeLimit" fun r v => { r with sizeLimit := v }]⟩

structure Volume where
  awsElasticBlockStore : Option (Carried .awsElasticBlockStore) := none
  azureDisk : Option (Carried .azureDisk) := none
  azureFile : Option (Carried .azureFile) := none
  cephfs : Option (Carried .cephFS) := none
  cinder : Option (Carried .cinder) := none
  configMap : Option ConfigMapVolumeSource := none
  csi : Option (Carried .csi) := none
  downwardAPI : Option (Carried .downwardAPI) := none
  emptyDir : Option EmptyDirVolumeSource := none
  ephemeral : Option (Carried .ephemeralVolume) := none
  fc : Option (Carried .fibreChannel) := none
  flexVolume : Option (Carried .flexVolume) := none
  flocker : Option (Carried .flocker) := none
  gcePersistentDisk : Option (Carried .gcePersistentDisk) := none
  gitRepo : Option (Carried .gitRepo) := none
  glusterfs : Option (Carried .glusterfs) := none
  hostPath : Option (Carried .hostPath) := none
  image : Option (Carried .imageVolume) := none
  iscsi : Option (Carried .iscsi) := none
  name : String := ""
  nfs : Option (Carried .nfs) := none
  persistentVolumeClaim : Option (Carried .persistentVolumeClaim) := none
  photonPersistentDisk : Option (Carried .photonPersistentDisk) := none
  portworxVolume : Option (Carried .portworxVolume) := none
  projected : Option (Carried .projected) := none
  quobyte : Option (Carried .quobyte) := none
  rbd : Option (Carried .rbd) := none
  scaleIO : Option (Carried .scaleIO) := none
  secret : Option SecretVolumeSource := none
  storageos : Option (Carried .storageOS) := none
  vsphereVolume : Option (Carried .vsphereVirtualDisk) := none
  deriving DecidableEq, Inhabited

instance : ToJson Volume where
  toJson r := .record [
    ("awsElasticBlockStore", r.awsElasticBlockStore.map toJson),
    ("azureDisk", r.azureDisk.map toJson),
    ("azureFile", r.azureFile.map toJson),
    ("cephfs", r.cephfs.map toJson),
    ("cinder", r.cinder.map toJson),
    ("configMap", r.configMap.map toJson),
    ("csi", r.csi.map toJson),
    ("downwardAPI", r.downwardAPI.map toJson),
    ("emptyDir", r.emptyDir.map toJson),
    ("ephemeral", r.ephemeral.map toJson),
    ("fc", r.fc.map toJson),
    ("flexVolume", r.flexVolume.map toJson),
    ("flocker", r.flocker.map toJson),
    ("gcePersistentDisk", r.gcePersistentDisk.map toJson),
    ("gitRepo", r.gitRepo.map toJson),
    ("glusterfs", r.glusterfs.map toJson),
    ("hostPath", r.hostPath.map toJson),
    ("image", r.image.map toJson),
    ("iscsi", r.iscsi.map toJson),
    ("name", some (toJson r.name)),
    ("nfs", r.nfs.map toJson),
    ("persistentVolumeClaim", r.persistentVolumeClaim.map toJson),
    ("photonPersistentDisk", r.photonPersistentDisk.map toJson),
    ("portworxVolume", r.portworxVolume.map toJson),
    ("projected", r.projected.map toJson),
    ("quobyte", r.quobyte.map toJson),
    ("rbd", r.rbd.map toJson),
    ("scaleIO", r.scaleIO.map toJson),
    ("secret", r.secret.map toJson),
    ("storageos", r.storageos.map toJson),
    ("vsphereVolume", r.vsphereVolume.map toJson)]

instance : OfJson Volume := ⟨.object "Volume" {} [
  .optional "awsElasticBlockStore" fun r v => { r with awsElasticBlockStore := v },
  .optional "azureDisk" fun r v => { r with azureDisk := v },
  .optional "azureFile" fun r v => { r with azureFile := v },
  .optional "cephfs" fun r v => { r with cephfs := v },
  .optional "cinder" fun r v => { r with cinder := v },
  .optional "configMap" fun r v => { r with configMap := v },
  .optional "csi" fun r v => { r with csi := v },
  .optional "downwardAPI" fun r v => { r with downwardAPI := v },
  .optional "emptyDir" fun r v => { r with emptyDir := v },
  .optional "ephemeral" fun r v => { r with ephemeral := v },
  .optional "fc" fun r v => { r with fc := v },
  .optional "flexVolume" fun r v => { r with flexVolume := v },
  .optional "flocker" fun r v => { r with flocker := v },
  .optional "gcePersistentDisk" fun r v => { r with gcePersistentDisk := v },
  .optional "gitRepo" fun r v => { r with gitRepo := v },
  .optional "glusterfs" fun r v => { r with glusterfs := v },
  .optional "hostPath" fun r v => { r with hostPath := v },
  .optional "image" fun r v => { r with image := v },
  .optional "iscsi" fun r v => { r with iscsi := v },
  .lenient "name" "" fun r v => { r with name := v },
  .optional "nfs" fun r v => { r with nfs := v },
  .optional "persistentVolumeClaim" fun r v => { r with persistentVolumeClaim := v },
  .optional "photonPersistentDisk" fun r v => { r with photonPersistentDisk := v },
  .optional "portworxVolume" fun r v => { r with portworxVolume := v },
  .optional "projected" fun r v => { r with projected := v },
  .optional "quobyte" fun r v => { r with quobyte := v },
  .optional "rbd" fun r v => { r with rbd := v },
  .optional "scaleIO" fun r v => { r with scaleIO := v },
  .optional "secret" fun r v => { r with secret := v },
  .optional "storageos" fun r v => { r with storageos := v },
  .optional "vsphereVolume" fun r v => { r with vsphereVolume := v }]⟩

end AutoscalerOperator.Kubernetes
