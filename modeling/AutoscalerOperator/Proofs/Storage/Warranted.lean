import AutoscalerOperator.Proofs.Storage.ClusterOperator
import AutoscalerOperator.Proofs.Storage.Parts

namespace AutoscalerOperator

open Kubernetes

/-- Whether a property holds of all values that are read from documents. -/
def Warranted {α : Type} [OfJson α] (P : α → Prop) : Prop :=
  ∀ json value, ofJson json = .ok value → P value

namespace Warranted

variable {α : Type} [OfJson α] {P : α → Prop}

theorem optional (warranted : Warranted P) :
    Warranted fun value : Option α => ∀ v, value = some v → P v := by
  intro json value read v there
  have told : Told none (some json) (some v) := there ▸ read
  obtain ⟨json, read⟩ := told.of_some
  exact warranted json v read

theorem list (warranted : Warranted P) : Warranted fun values : List α => ∀ v ∈ values, P v := by
  intro json values read v member
  obtain ⟨items, -, all⟩ := forall₂_of_list read
  obtain ⟨item, read⟩ := forall₂_right all v member
  exact warranted item v read

theorem sortedMap (warranted : Warranted P) :
    Warranted fun map : SortedMap α => ∀ entry ∈ map.entries, P entry.2 := by
  intro json map read entry member
  obtain ⟨json, told⟩ := read_of_sortedMap read entry member
  exact warranted json entry.2 told

end Warranted

namespace Field

variable {ρ β : Type} {P : ρ → Prop} {field : Field ρ} {fields : List (Field ρ)}
  {presence : Presence} {key : String}

def Upholds (field : Field ρ) (P : ρ → Prop) : Prop :=
  ∀ json change, field.value.ofJson json = .ok change → ∀ record, P record → P (change record)

namespace Upholds

variable [OfJson β] {Q : β → Prop} {set : ρ → β → ρ}

theorem put_of (warranted : Warranted Q)
    (kept : ∀ record value, P record → Q value → P (set record value)) :
    (put presence key set).Upholds P := by
  intro json change told record holds
  obtain ⟨value, read, rfl⟩ := map_eq_ok told
  exact kept record value holds (warranted json value read)

theorem put (kept : ∀ record value, P record → P (set record value)) :
    (put presence key set).Upholds P :=
  put_of (Q := fun _ => True) (fun _ _ _ => trivial) fun record value holds _ =>
    kept record value holds

theorem lenient_of {default : β} (warranted : Warranted Q) (whole : Q default)
    (kept : ∀ record value, P record → Q value → P (set record value)) :
    (lenient key default set).Upholds P := by
  refine put_of warranted.optional fun record value holds told => kept record _ holds ?_
  cases value with
  | none => exact whole
  | some value => exact told value rfl

theorem fixed {wanted : String} : (fixed key wanted).Upholds P := by
  intro json change told record holds
  cases json with
  | str text =>
    change (if text = wanted then Except.ok id else _) = _ at told
    split at told
    · cases told; exact holds
    · cases told
  | _ => cases told

end Upholds

theorem upheld_fill (all : ∀ field ∈ fields, field.Upholds P) {start next : ρ} {json : Json}
    (holds : P start) (filled : fill fields start key json = .ok next) : P next := by
  obtain ⟨-, rfl⟩ | ⟨field, change, found, told, rfl⟩ := fill_eq_ok filled
  · exact holds
  · exact all field (List.mem_of_find?_eq_some found) json change told start holds

theorem upheld_items (all : ∀ field ∈ fields, field.Upholds P) {wanted : String}
    {count index : Nat} {items : List Json} {start record : ρ} (holds : P start)
    (filled : fillItems wanted count index fields items start = .ok record) : P record := by
  induction fields generalizing index items start with
  | nil =>
    cases items with
    | nil => cases filled; exact holds
    | cons => cases filled
  | cons field fields ih =>
    cases items with
    | nil => exact (fillItems_nil filled).1 ▸ holds
    | cons item items =>
      obtain ⟨change, told, filled⟩ := fillItems_cons filled
      obtain ⟨first, rest⟩ := List.forall_mem_cons.mp all
      exact ih rest (first item change told start holds) filled

end Field

section

variable {ρ : Type} {P : ρ → Prop} {fields : List (Field ρ)} {type : String} {start : ρ}
  [OfJson ρ]

theorem Warranted.of_object (decoder : (OfJson.decoder : Decoder ρ) = .object type start fields)
    (holds : P start) (all : fields.Forall (·.Upholds P)) : Warranted P := by
  intro json record read
  rw [ofJson, decoder] at read
  cases json with
  | obj members =>
    refine foldlM_keeps (fun record member next holds filled => ?_) holds read
    exact Field.upheld_fill (List.forall_iff_forall_mem.mp all) holds filled
  | _ => cases read

theorem Warranted.of_record (decoder : (OfJson.decoder : Decoder ρ) = .record type start fields)
    (holds : P start) (all : fields.Forall (·.Upholds P)) : Warranted P := by
  intro json record read
  rw [ofJson, decoder] at read
  cases json with
  | obj members =>
    refine foldlM_keeps (fun record member next holds filled => ?_) holds 
      (Field.record_eq_ok read).1
    exact Field.upheld_fill (List.forall_iff_forall_mem.mp all) holds filled
  | arr items => exact Field.upheld_items (List.forall_iff_forall_mem.mp all) holds read
  | _ => cases read

end

theorem Instant.warranted : Warranted Instant.Readable := fun _ _ => readable_of_ofJson

theorem of_missing {α : Type} {P : α → Prop} : ∀ v, none = some v → P v := fun _ there => by
  cases there

namespace Kubernetes

open AutoscalerOperator.Field.Upholds (put put_of lenient_of fixed)

theorem ObjectMeta.readable_empty : ObjectMeta.Readable {} :=
  ⟨of_missing, of_missing⟩

theorem ObjectMeta.warranted : Warranted ObjectMeta.Readable :=
  .of_object rfl readable_empty ⟨
    put fun _ _ r => { r with },
    put_of Instant.warranted.optional fun _ _ r told => { r with created := told },
    put fun _ _ r => { r with },
    put_of Instant.warranted.optional fun _ _ r told => { r with deleted := told },
    put fun _ _ r => { r with }, put fun _ _ r => { r with }, put fun _ _ r => { r with },
    put fun _ _ r => { r with }, put fun _ _ r => { r with }, put fun _ _ r => { r with },
    put fun _ _ r => { r with }, put fun _ _ r => { r with }, put fun _ _ r => { r with },
    put fun _ _ r => { r with }, put fun _ _ r => { r with }⟩

theorem PodTemplateSpec.warranted : Warranted PodTemplateSpec.Readable :=
  .of_object rfl of_missing ⟨
    put_of ObjectMeta.warranted.optional fun _ _ _ told => told,
    put fun _ _ r => r⟩

theorem DeploymentSpec.warranted : Warranted DeploymentSpec.Readable :=
  .of_object rfl of_missing ⟨
    put fun _ _ r => r, put fun _ _ r => r, put fun _ _ r => r, put fun _ _ r => r,
    put fun _ _ r => r, put fun _ _ r => r, put fun _ _ r => r,
    lenient_of PodTemplateSpec.warranted of_missing fun _ _ _ told => told⟩

theorem DeploymentCondition.warranted : Warranted DeploymentCondition.Readable :=
  .of_object rfl ⟨of_missing, of_missing⟩ ⟨
    put_of Instant.warranted.optional fun _ _ r told => { r with changed := told },
    put_of Instant.warranted.optional fun _ _ r told => { r with updated := told },
    put fun _ _ r => { r with }, put fun _ _ r => { r with }, put fun _ _ r => { r with },
    put fun _ _ r => { r with }⟩

theorem DeploymentStatus.warranted : Warranted DeploymentStatus.Readable :=
  .of_object rfl of_missing ⟨
    put fun _ _ r => r, put fun _ _ r => r,
    put_of DeploymentCondition.warranted.list.optional fun _ _ _ told => told,
    put fun _ _ r => r, put fun _ _ r => r, put fun _ _ r => r, put fun _ _ r => r,
    put fun _ _ r => r⟩

theorem Deployment.warranted : Warranted Deployment.Readable :=
  .of_object rfl
    ⟨ObjectMeta.readable_empty, of_missing, of_missing⟩ ⟨
    fixed, fixed,
    lenient_of ObjectMeta.warranted ObjectMeta.readable_empty fun _ _ r told =>
      { r with metadata := told },
    put_of DeploymentSpec.warranted.optional fun _ _ r told => { r with spec := told },
    put_of DeploymentStatus.warranted.optional fun _ _ r told => { r with status := told }⟩

theorem Service.warranted : Warranted fun s : Service => s.metadata.Readable :=
  .of_object rfl ObjectMeta.readable_empty ⟨
    fixed, fixed,
    lenient_of ObjectMeta.warranted ObjectMeta.readable_empty fun _ _ _ told => told,
    put fun _ _ r => r, put fun _ _ r => r⟩

theorem Namespace.warranted : Warranted fun n : Namespace => n.metadata.Readable :=
  .of_object rfl ObjectMeta.readable_empty ⟨
    fixed, fixed,
    lenient_of ObjectMeta.warranted ObjectMeta.readable_empty fun _ _ _ told => told,
    put fun _ _ r => r, put fun _ _ r => r⟩

theorem ByteString.warranted : Warranted ByteString.Readable := by
  intro json bytes read
  simp only [ofJson, OfJson.decoder, Decoder.simple] at read
  cases json with
  | null =>
    cases read
    unfold ByteString.Readable
    decide +kernel
  | str text =>
    cases told : Text.Base64.check text.toUTF8.toList with
    | error e => simp only [told] at read; cases read
    | ok => simp only [told] at read; cases read; exact told
  | _ => cases read

theorem ConfigMap.warranted : Warranted ConfigMap.Readable :=
  .of_object rfl ⟨ObjectMeta.readable_empty, of_missing⟩ ⟨
    fixed,
    put_of ByteString.warranted.sortedMap.optional fun _ _ r told => { r with binaryData := told },
    put fun _ _ r => { r with }, put fun _ _ r => { r with },
    fixed,
    lenient_of ObjectMeta.warranted ObjectMeta.readable_empty fun _ _ r told =>
      { r with metadata := told }⟩

end Kubernetes

theorem AutoscalerController.warranted :
    Warranted fun c : AutoscalerController => c.metadata.Readable :=
  .of_record rfl ObjectMeta.readable_empty ⟨
    .put_of ObjectMeta.warranted fun _ _ _ told => told,
    .put fun _ _ r => r, .put fun _ _ r => r⟩

end AutoscalerOperator
