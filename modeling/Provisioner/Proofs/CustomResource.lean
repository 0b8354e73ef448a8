import Provisioner.DatabaseCluster
import Provisioner.Olm.InstallPlan
import Provisioner.Olm.OperatorGroup
import Provisioner.Olm.ServiceVersion
import Provisioner.Proofs.Except
import Provisioner.Proofs.Json.Records
/-!
# Objects of the custom kinds, written and read back

Every part of an object of one of the five custom kinds is read back as it was written, so the whole
object is, provided that its metadata is.  For each kind `places` says what stands in which place of
the written object: a part that is absent stands nowhere, and one that is empty stands in its place.
-/

namespace Provisioner

open Json

/-! ## Parts of objects -/

lemma Approval.readsBack : ReadsBack Approval.decode Approval.encode where
  decode_encode a := by cases a <;> rfl
  ne_null a h := by cases h

namespace SubscriptionSpec

lemma readsBack : ReadsBack decode encode where
  decode_encode r := by
    rw [decode, encode, closed_ofMembers]
    · simp [optional_sort, required_sort, readsBack_string.decode_encode,
        readsBack_string.optional, Approval.readsBack.optional]
    · simp
  ne_null r := ofMembers_ne_null _

/-- What stands where in a written record. -/
def places (r : SubscriptionSpec) : Places :=
  [(["source"], some (.string r.source)), (["sourceNamespace"], some (.string r.sourceNamespace)),
    (["name"], some (.string r.package)), (["channel"], r.channel.map .string),
    (["startingCSV"], r.startingVersion.map .string),
    (["installPlanApproval"], r.approval.map Approval.encode)]

lemma hold_places (r : SubscriptionSpec) : r.places.Hold r.encode := by
  simp [places, encode]

end SubscriptionSpec

namespace PlanReference

lemma readsBack : ReadsBack decode encode where
  decode_encode r := by
    rw [decode, encode, closed_ofMembers]
    · simp [optional_sort, defaulted_sort, readsBack_string.decode_encode,
        readsBack_string.optional]
    · simp
  ne_null r := ofMembers_ne_null _

/-- What stands where in a written record. -/
def places (r : PlanReference) : Places :=
  [(["name"], some (.string r.name)), (["apiVersion"], r.apiVersion.map .string),
    (["kind"], r.kind.map .string)]

lemma hold_places (r : PlanReference) : r.places.Hold r.encode := by
  simp [places, encode]

end PlanReference

namespace SubscriptionStatus

lemma readsBack : ReadsBack decode encode where
  decode_encode r := by
    rw [decode, encode, closed_ofMembers]
    · simp [optional_sort, readsBack_string.optional, PlanReference.readsBack.optional]
    · simp
  ne_null r := ofMembers_ne_null _

/-- What stands where in a written record. -/
def places (r : SubscriptionStatus) : Places :=
  Places.under? "installplan" PlanReference.encode PlanReference.places r.installPlan ++
    Places.under? "installPlanRef" PlanReference.encode PlanReference.places r.installPlanRef ++
    [(["installedCSV"], r.installedVersion.map .string),
      (["currentCSV"], r.currentVersion.map .string), (["state"], r.state.map .string)]

lemma hold_places (r : SubscriptionStatus) : r.places.Hold r.encode := by
  refine Places.hold_append.mpr ⟨Places.hold_append.mpr ⟨?_, ?_⟩, ?_⟩
  · exact Places.hold_under? (by simp [encode]) PlanReference.hold_places
  · exact Places.hold_under? (by simp [encode]) PlanReference.hold_places
  · simp [encode]

end SubscriptionStatus

namespace InstallPlanSpec

lemma readsBack : ReadsBack decode encode where
  decode_encode r := by
    rw [decode, encode, closed_ofMembers]
    · simp [defaulted_sort, Approval.readsBack.decode_encode, readsBack_bool.decode_encode,
        readsBack_string.list.decode_encode]
    · simp
  ne_null r := ofMembers_ne_null _

/-- What stands where in a written record. -/
def places (r : InstallPlanSpec) : Places :=
  [(["approval"], some r.approval.encode), (["approved"], some (.bool r.approved)),
    (["clusterServiceVersionNames"], some (ofList .string r.versions))]

lemma hold_places (r : InstallPlanSpec) : r.places.Hold r.encode := by
  simp [places, encode]

end InstallPlanSpec

namespace InstallPlanStatus

lemma readsBack : ReadsBack decode encode where
  decode_encode r := by
    rw [decode, encode, closed_ofMembers]
    · simp [optional_sort, readsBack_string.optional]
    · simp
  ne_null r := ofMembers_ne_null _

/-- What stands where in a written record. -/
def places (r : InstallPlanStatus) : Places :=
  [(["phase"], r.phase.map .string)]

lemma hold_places (r : InstallPlanStatus) : r.places.Hold r.encode := by
  simp [places, encode]

end InstallPlanStatus

namespace ServiceVersionSpec

lemma readsBack : ReadsBack decode encode where
  decode_encode r := by
    rw [decode, encode, closed_ofMembers]
    · simp [optional_sort, readsBack_string.optional]
    · simp
  ne_null r := ofMembers_ne_null _

/-- What stands where in a written record. -/
def places (r : ServiceVersionSpec) : Places :=
  [(["displayName"], r.displayName.map .string), (["version"], r.version.map .string),
    (["replaces"], r.replaces.map .string)]

lemma hold_places (r : ServiceVersionSpec) : r.places.Hold r.encode := by
  simp [places, encode]

end ServiceVersionSpec

namespace ServiceVersionStatus

lemma readsBack : ReadsBack decode encode where
  decode_encode r := by
    rw [decode, encode, closed_ofMembers]
    · simp [optional_sort, readsBack_string.optional]
    · simp
  ne_null r := ofMembers_ne_null _

/-- What stands where in a written record. -/
def places (r : ServiceVersionStatus) : Places :=
  [(["phase"], r.phase.map .string), (["reason"], r.reason.map .string),
    (["message"], r.message.map .string)]

lemma hold_places (r : ServiceVersionStatus) : r.places.Hold r.encode := by
  simp [places, encode]

end ServiceVersionStatus

namespace InstanceResources

lemma readsBack : ReadsBack decode encode where
  decode_encode r := by
    rw [decode, encode, closed_ofMembers]
    · simp [optional_sort, readsBack_string.optional]
    · simp
  ne_null r := ofMembers_ne_null _

/-- What stands where in a written record. -/
def places (r : InstanceResources) : Places :=
  [(["cpu"], r.cpu.map .string), (["memory"], r.memory.map .string),
    (["diskSize"], r.diskSize.map .string)]

lemma hold_places (r : InstanceResources) : r.places.Hold r.encode := by
  simp [places, encode]

end InstanceResources

namespace ClusterMonitoring

lemma readsBack : ReadsBack decode encode where
  decode_encode r := by
    rw [decode, encode, closed_ofMembers]
    · simp [optional_sort, readsBack_string.optional]
    · simp
  ne_null r := ofMembers_ne_null _

/-- What stands where in a written record. -/
def places (r : ClusterMonitoring) : Places :=
  [(["image"], r.image.map .string), (["serverHost"], r.serverHost.map .string)]

lemma hold_places (r : ClusterMonitoring) : r.places.Hold r.encode := by
  simp [places, encode]

end ClusterMonitoring

namespace DatabaseClusterSpec

lemma readsBack : ReadsBack decode encode where
  decode_encode r := by
    rw [decode, encode, closed_ofMembers]
    · simp [optional_sort, defaulted_sort, readsBack_string.optional, readsBack_bool.decode_encode,
        readsBack_signed32.optional, InstanceResources.readsBack.optional,
        ClusterMonitoring.readsBack.optional]
    · simp
  ne_null r := ofMembers_ne_null _

/-- What stands where in a written record. -/
def places (r : DatabaseClusterSpec) : Places :=
  [(["databaseType"], r.databaseType.map .string),
    (["databaseImage"], r.databaseImage.map .string),
    (["databaseConfig"], r.databaseConfig.map .string),
    (["secretsName"], r.secretsName.map .string), (["pause"], some (.bool r.pause)),
    (["clusterSize"], r.clusterSize.map ofInt32)] ++
    Places.under? "dbInstance" InstanceResources.encode InstanceResources.places r.dbInstance ++
    Places.under? "monitoring" ClusterMonitoring.encode ClusterMonitoring.places r.monitoring

lemma hold_places (r : DatabaseClusterSpec) : r.places.Hold r.encode := by
  refine Places.hold_append.mpr ⟨Places.hold_append.mpr ⟨?_, ?_⟩, ?_⟩
  · simp [encode]
  · exact Places.hold_under? (by simp [encode]) InstanceResources.hold_places
  · exact Places.hold_under? (by simp [encode]) ClusterMonitoring.hold_places

end DatabaseClusterSpec

namespace DatabaseClusterStatus

lemma readsBack : ReadsBack decode encode where
  decode_encode r := by
    rw [decode, encode, closed_ofMembers]
    · simp [optional_sort, defaulted_sort, readsBack_string.optional,
        readsBack_signed32.decode_encode]
    · simp
  ne_null r := ofMembers_ne_null _

/-- What stands where in a written record. -/
def places (r : DatabaseClusterStatus) : Places :=
  [(["state"], r.state.map .string), (["ready"], some (ofInt32 r.ready)),
    (["size"], some (ofInt32 r.size)), (["host"], r.host.map .string),
    (["message"], r.message.map .string)]

lemma hold_places (r : DatabaseClusterStatus) : r.places.Hold r.encode := by
  simp [places, encode]

end DatabaseClusterStatus

/-! ## Objects -/

/-- What stands where in every object. -/
def ResourceKind.places (k : ResourceKind) (metadata : ObjectMeta) : Places :=
  [(["apiVersion"], some (.string k.apiVersion)), (["kind"], some (.string k.kind)),
    (["metadata"], some metadata.encode)]

section Object

variable {α β γ : Type} {spec : Decoder α} {status : Decoder β} {encodeSpec : α → Json}
  {encodeStatus : β → Json} {places : α → Places} {places' : β → Places}

/-- An object whose parts are read back is read back with its metadata. -/
lemma decodeObject_encodeObject (hspec : ReadsBack spec encodeSpec)
    (hstatus : ReadsBack status encodeStatus) (build : ObjectMeta → α → Option β → γ)
    (kind : ResourceKind) {metadata : ObjectMeta}
    (hmeta : ObjectMeta.decode metadata.encode = .ok metadata) (x : α) (y : Option β) :
    decodeObject spec status build (encodeObject kind encodeSpec encodeStatus metadata x y) =
      .ok (build metadata x y) := by
  rw [decodeObject, encodeObject, closed_ofMembers]
  · simp [ResourceKind.members, optional_sort, required_sort, readsBack_string.decode_encode, hmeta,
      hspec.decode_encode, hstatus.optional]
  · simp [ResourceKind.members]

/-- What stands where in an object with a specification, and with a status if there is one. -/
def objectPlaces (kind : ResourceKind) (encodeSpec : α → Json) (places : α → Places)
    (encodeStatus : β → Json) (places' : β → Places) (metadata : ObjectMeta) (x : α)
    (y : Option β) : Places :=
  kind.places metadata ++ Places.under? "spec" encodeSpec places (some x) ++
    Places.under? "status" encodeStatus places' y

/-- An object holds its kind, its metadata, and what its two parts hold. -/
lemma hold_encodeObject (hspec : ∀ x, (places x).Hold (encodeSpec x))
    (hstatus : ∀ y, (places' y).Hold (encodeStatus y)) (kind : ResourceKind)
    (metadata : ObjectMeta) (x : α) (y : Option β) :
    (objectPlaces kind encodeSpec places encodeStatus places' metadata x y).Hold
      (encodeObject kind encodeSpec encodeStatus metadata x y) := by
  refine Places.hold_append.mpr ⟨Places.hold_append.mpr ⟨?_, ?_⟩, ?_⟩
  · simp [encodeObject, ResourceKind.places, ResourceKind.members]
  · exact Places.hold_under? (by simp [encodeObject]) hspec
  · exact Places.hold_under? (by simp [encodeObject, ResourceKind.members]) hstatus

end Object

namespace Subscription

lemma decode_encode (x : Subscription)
    (hmeta : ObjectMeta.decode x.metadata.encode = .ok x.metadata) : decode x.encode = .ok x :=
  decodeObject_encodeObject SubscriptionSpec.readsBack SubscriptionStatus.readsBack mk kind hmeta
    x.spec x.status

/-- What stands where in a written object. -/
def places (x : Subscription) : Places :=
  objectPlaces kind SubscriptionSpec.encode SubscriptionSpec.places
    SubscriptionStatus.encode SubscriptionStatus.places x.metadata x.spec x.status

lemma hold_places (x : Subscription) : x.places.Hold x.encode :=
  hold_encodeObject SubscriptionSpec.hold_places SubscriptionStatus.hold_places kind
    x.metadata x.spec x.status

end Subscription

namespace InstallPlan

lemma decode_encode (x : InstallPlan)
    (hmeta : ObjectMeta.decode x.metadata.encode = .ok x.metadata) : decode x.encode = .ok x :=
  decodeObject_encodeObject InstallPlanSpec.readsBack InstallPlanStatus.readsBack mk kind hmeta
    x.spec x.status

/-- What stands where in a written object. -/
def places (x : InstallPlan) : Places :=
  objectPlaces kind InstallPlanSpec.encode InstallPlanSpec.places
    InstallPlanStatus.encode InstallPlanStatus.places x.metadata x.spec x.status

lemma hold_places (x : InstallPlan) : x.places.Hold x.encode :=
  hold_encodeObject InstallPlanSpec.hold_places InstallPlanStatus.hold_places kind
    x.metadata x.spec x.status

end InstallPlan

namespace ServiceVersion

lemma decode_encode (x : ServiceVersion)
    (hmeta : ObjectMeta.decode x.metadata.encode = .ok x.metadata) : decode x.encode = .ok x :=
  decodeObject_encodeObject ServiceVersionSpec.readsBack ServiceVersionStatus.readsBack mk kind hmeta
    x.spec x.status

/-- What stands where in a written object. -/
def places (x : ServiceVersion) : Places :=
  objectPlaces kind ServiceVersionSpec.encode ServiceVersionSpec.places
    ServiceVersionStatus.encode ServiceVersionStatus.places x.metadata x.spec x.status

lemma hold_places (x : ServiceVersion) : x.places.Hold x.encode :=
  hold_encodeObject ServiceVersionSpec.hold_places ServiceVersionStatus.hold_places kind
    x.metadata x.spec x.status

end ServiceVersion

namespace DatabaseCluster

lemma decode_encode (x : DatabaseCluster)
    (hmeta : ObjectMeta.decode x.metadata.encode = .ok x.metadata) : decode x.encode = .ok x :=
  decodeObject_encodeObject DatabaseClusterSpec.readsBack DatabaseClusterStatus.readsBack mk kind hmeta
    x.spec x.status

/-- What stands where in a written object. -/
def places (x : DatabaseCluster) : Places :=
  objectPlaces kind DatabaseClusterSpec.encode DatabaseClusterSpec.places
    DatabaseClusterStatus.encode DatabaseClusterStatus.places x.metadata x.spec x.status

lemma hold_places (x : DatabaseCluster) : x.places.Hold x.encode :=
  hold_encodeObject DatabaseClusterSpec.hold_places DatabaseClusterStatus.hold_places kind
    x.metadata x.spec x.status

end DatabaseCluster

namespace OperatorGroup

lemma readsBack_spec : ReadsBack decodeSpec encodeSpec where
  decode_encode targets := by
    cases targets with
    | nil => rfl
    | cons first rest =>
      rw [decodeSpec, encodeSpec, closed_ofMembers]
      · simp [defaulted_sort, readsBack_string.list.decode_encode]
      · simp
  ne_null targets := ofMembers_ne_null _

lemma decode_encode (x : OperatorGroup)
    (hmeta : ObjectMeta.decode x.metadata.encode = .ok x.metadata) : decode x.encode = .ok x := by
  rw [decode, encode, closed_ofMembers]
  · simp [ResourceKind.members, required_sort, readsBack_string.decode_encode, hmeta,
      readsBack_spec.decode_encode]
  · simp [ResourceKind.members]

/-- What stands where in a written object; no namespaces are not written. -/
def places (x : OperatorGroup) : Places :=
  kind.places x.metadata ++
    [(["spec"], some (encodeSpec x.targets)),
      (["spec", "targetNamespaces"],
        if x.targets.isEmpty then none else some (ofList .string x.targets))]

lemma hold_places (x : OperatorGroup) : x.places.Hold x.encode := by
  cases htargets : x.targets.isEmpty <;>
    simp [places, encode, encodeSpec, ResourceKind.places, ResourceKind.members, htargets]

end OperatorGroup

/-! ## All kinds -/

/-- The custom kinds. -/
inductive CustomKind where
  | subscription
  | installPlan
  | serviceVersion
  | operatorGroup
  | databaseCluster

/-- An object of one of the custom kinds. -/
inductive CustomResource where
  | subscription (x : Subscription)
  | installPlan (x : InstallPlan)
  | serviceVersion (x : ServiceVersion)
  | operatorGroup (x : OperatorGroup)
  | databaseCluster (x : DatabaseCluster)

/-- Read an object of a custom kind. -/
def CustomKind.decode : CustomKind → Decoder CustomResource
  | subscription, value => (Subscription.decode value).map .subscription
  | installPlan, value => (InstallPlan.decode value).map .installPlan
  | serviceVersion, value => (ServiceVersion.decode value).map .serviceVersion
  | operatorGroup, value => (OperatorGroup.decode value).map .operatorGroup
  | databaseCluster, value => (DatabaseCluster.decode value).map .databaseCluster

namespace CustomResource

/-- The kind of an object. -/
def kind : CustomResource → CustomKind
  | subscription _ => .subscription
  | installPlan _ => .installPlan
  | serviceVersion _ => .serviceVersion
  | operatorGroup _ => .operatorGroup
  | databaseCluster _ => .databaseCluster

/-- The metadata of an object. -/
def metadata : CustomResource → ObjectMeta
  | subscription x => x.metadata
  | installPlan x => x.metadata
  | serviceVersion x => x.metadata
  | operatorGroup x => x.metadata
  | databaseCluster x => x.metadata

/-- Write an object. -/
def encode : CustomResource → Json
  | subscription x => x.encode
  | installPlan x => x.encode
  | serviceVersion x => x.encode
  | operatorGroup x => x.encode
  | databaseCluster x => x.encode

/-- What stands where in a written object. -/
def places : CustomResource → Places
  | subscription x => x.places
  | installPlan x => x.places
  | serviceVersion x => x.places
  | operatorGroup x => x.places
  | databaseCluster x => x.places

/-- The metadata of an object is read back as it was written. -/
def MetadataReadsBack (x : CustomResource) : Prop :=
  ObjectMeta.decode x.metadata.encode = .ok x.metadata

variable {x y : CustomResource}

lemma decode_kind_encode (hmeta : x.MetadataReadsBack) : x.kind.decode x.encode = .ok x := by
  cases x with
  | subscription x => rw [kind, encode, CustomKind.decode, x.decode_encode hmeta, Except.map]
  | installPlan x => rw [kind, encode, CustomKind.decode, x.decode_encode hmeta, Except.map]
  | serviceVersion x => rw [kind, encode, CustomKind.decode, x.decode_encode hmeta, Except.map]
  | operatorGroup x => rw [kind, encode, CustomKind.decode, x.decode_encode hmeta, Except.map]
  | databaseCluster x => rw [kind, encode, CustomKind.decode, x.decode_encode hmeta, Except.map]

lemma hold_places (x : CustomResource) : x.places.Hold x.encode := by
  cases x with
  | subscription x => exact x.hold_places
  | installPlan x => exact x.hold_places
  | serviceVersion x => exact x.hold_places
  | operatorGroup x => exact x.hold_places
  | databaseCluster x => exact x.hold_places

lemma kind_of_decode {kind : CustomKind} {value : Json} (hread : kind.decode value = .ok x) :
    x.kind = kind := by
  cases kind <;> obtain ⟨object, -, rfl⟩ := map_eq_ok_iff.mp hread <;> rfl

/-- **Custom objects are read back as they were written.**  Let the metadata of an object be read
back.  Then so is the object: what stands where in it when it is written is what the object holds,
under the names of its kind, and nothing stands where the object holds nothing.  Two such objects of
one kind are never written alike.  An object that was read, from whatever value, is accepted again
when it is written, and is then written as before. -/
theorem reads_back_as_written (hmeta : x.MetadataReadsBack) :
    x.kind.decode x.encode = .ok x ∧
    (∀ place ∈ x.places, x.encode.at? place.1 = place.2) ∧
    (∀ y : CustomResource, y.MetadataReadsBack → y.kind = x.kind → y.encode = x.encode → y = x) ∧
    ∀ kind value, CustomKind.decode kind value = .ok x →
      ∃ y, kind.decode x.encode = .ok y ∧ y = x ∧ y.encode = x.encode := by
  have hread := decode_kind_encode hmeta
  refine ⟨hread, x.hold_places, ?_, ?_⟩
  · intro y hmeta' hkind hencode
    have hread' := decode_kind_encode hmeta'
    rw [hkind, hencode, hread] at hread'
    exact (Except.ok.inj hread').symm
  · intro kind value haccepted
    obtain rfl := kind_of_decode haccepted
    exact ⟨x, hread, rfl, rfl⟩

/-- A subscription to an empty channel, with an empty reference and nothing else in its status. -/
def bare : CustomResource := .subscription {
  metadata := { name := some "pxc", ns := some "default" }
  spec := { source := "catalog", sourceNamespace := "olm", package := "pxc", channel := some "" }
  status := some { installPlan := some { name := "" } } }

/-- What is empty is written and read back, what is absent is not written. -/
theorem reads_back_as_written_bare :
    bare.MetadataReadsBack ∧ bare.kind.decode bare.encode = .ok bare ∧
      bare.encode.at? ["spec", "channel"] = some (.string "") ∧
      bare.encode.at? ["spec", "startingCSV"] = none ∧
      bare.encode.at? ["status", "installplan", "name"] = some (.string "") ∧
      bare.encode.at? ["status", "installPlanRef"] = none := by
  have hmeta : bare.MetadataReadsBack := rfl
  obtain ⟨hread, hplaces, -⟩ := reads_back_as_written hmeta
  refine ⟨hmeta, hread, hplaces (["spec", "channel"], some (.string "")) ?_,
    hplaces (["spec", "startingCSV"], none) ?_,
    hplaces (["status", "installplan", "name"], some (.string "")) ?_,
    hplaces (["status", "installPlanRef"], none) ?_⟩ <;> decide +kernel

example : SubscriptionStatus.encode {} = .object [] := rfl

end CustomResource

end Provisioner
