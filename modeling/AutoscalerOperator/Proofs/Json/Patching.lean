import AutoscalerOperator.Json.MergePatch
import AutoscalerOperator.Proofs.Json.Congruence

namespace AutoscalerOperator

theorem SortedMap.mem_of_mem_ofList {α : Type} {entries : List (String × α)} {entry : String × α}
    (member : entry ∈ (SortedMap.ofList entries).entries) : entry ∈ entries := by
  have inserted (map : SortedMap α) (entries : List (String × α))
      (member : entry ∈
        (entries.foldl (fun map entry => map.insert entry.1 entry.2) map).entries) :
      entry ∈ map.entries ∨ entry ∈ entries := by
    induction entries generalizing map with
    | nil => exact .inl member
    | cons head rest ih =>
      rcases ih _ member with early | late
      · rcases Entries.mem_of_mem_insert early with rfl | early
        · exact .inr List.mem_cons_self
        · exact .inl early
      · exact .inr (List.mem_cons_of_mem _ late)
  rcases inserted .empty entries member with none | member
  · cases none
  · exact member

namespace Json

mutual

/-- A document without the members of objects that are null. Arrays stay as they are. -/
def withoutNulls : Json → Json
  | .obj members => .obj (withoutNullMembers members)
  | json => json

def withoutNullMembers : List (String × Json) → List (String × Json)
  | [] => []
  | (key, json) :: members =>
    match json with
    | .null => withoutNullMembers members
    | json => (key, withoutNulls json) :: withoutNullMembers members

end

mutual

/-- Whether the members of objects are in ascending order, outside of arrays. -/
def Ordered : Json → Prop
  | .obj members => Entries.Ascending members ∧ OrderedMembers members
  | _ => True

def OrderedMembers : List (String × Json) → Prop
  | [] => True
  | (_, json) :: members => json.Ordered ∧ OrderedMembers members

end

theorem orderedMembers_iff {members : List (String × Json)} :
    OrderedMembers members ↔ ∀ member ∈ members, member.2.Ordered := by
  induction members with
  | nil => simp [OrderedMembers]
  | cons member rest ih => rw [OrderedMembers, ih, List.forall_mem_cons]

mutual

theorem ordered_arranged : (json : Json) → json.arranged.Ordered
  | .obj members => by
    refine ⟨(SortedMap.ofList (arrangedMembers members)).ascending, ?_⟩
    refine orderedMembers_iff.mpr fun member found => ?_
    exact orderedMembers_iff.mp (orderedMembers_arranged members) member
      (SortedMap.mem_of_mem_ofList found)
  | .arr _ | .null | .bool _ | .int _ | .float _ | .str _ => trivial

theorem orderedMembers_arranged :
    (members : List (String × Json)) → OrderedMembers (arrangedMembers members)
  | [] => trivial
  | (_, json) :: members => ⟨ordered_arranged json, orderedMembers_arranged members⟩

end

def patched? (old? : Option Json) : Json → Option Json
  | .null => none
  | value => some (mergePatch (old?.getD .null) value)

def stripped? : Json → Option Json
  | .null => none
  | json => some json.withoutNulls

variable {members patch : List (String × Json)}

theorem mergeMembers_cons (members : List (String × Json)) (key : String) (value : Json)
    (rest : List (String × Json)) :
    mergeMembers members ((key, value) :: rest) =
      mergeMembers (putMember key (patched? (Entries.get? key members) value) members) rest := by
  cases value <;> rfl

theorem ascending_record {members : List (String × Option Json)}
    (ordered : (members.map (·.1)).Pairwise (· < ·)) :
    Entries.Ascending (membersOf (.record members)) := by
  refine (List.pairwise_map.mp ordered).filterMap _ fun first second below => ?_
  intro entry shown other told
  obtain ⟨_, -, rfl⟩ := Option.map_eq_some_iff.mp shown
  obtain ⟨_, -, rfl⟩ := Option.map_eq_some_iff.mp told
  exact below

theorem ascending_mergeMembers (ascending : Entries.Ascending members)
    (patch : List (String × Json)) : Entries.Ascending (mergeMembers members patch) := by
  induction patch generalizing members with
  | nil => exact ascending
  | cons entry rest ih =>
    rw [mergeMembers_cons]
    exact ih (ascending_putMember ascending _ _)

theorem get?_mergeMembers (members : List (String × Json)) (ascending : Entries.Ascending patch)
    (key : String) :
    Entries.get? key (mergeMembers members patch) =
      match Entries.get? key patch with
      | some value => patched? (Entries.get? key members) value
      | none => Entries.get? key members := by
  induction patch generalizing members with
  | nil => rfl
  | cons entry rest ih =>
    obtain ⟨other, value⟩ := entry
    obtain ⟨first, ascending⟩ := List.pairwise_cons.mp ascending
    rw [mergeMembers_cons, ih _ ascending, get?_putMember, Entries.get?]
    by_cases here : other = key
    · subst here
      rw [Entries.get?_eq_none first, if_pos rfl, if_pos rfl]
    · rw [if_neg here, if_neg here]

theorem keys_withoutNullMembers (members : List (String × Json)) :
    ((withoutNullMembers members).map (·.1)).Sublist (members.map (·.1)) := by
  induction members with
  | nil => exact .slnil
  | cons member rest ih =>
    obtain ⟨key, json⟩ := member
    cases json with
    | null => exact ih.cons key
    | bool | int | float | str | arr | obj => exact ih.cons_cons key

theorem ascending_withoutNullMembers (ascending : Entries.Ascending members) :
    Entries.Ascending (withoutNullMembers members) :=
  List.pairwise_map.mp ((List.pairwise_map.mpr ascending).sublist (keys_withoutNullMembers members))

theorem get?_withoutNullMembers (ascending : Entries.Ascending members) (key : String) :
    Entries.get? key (withoutNullMembers members) = (Entries.get? key members).bind stripped? := by
  induction members with
  | nil => rfl
  | cons member rest ih =>
    obtain ⟨other, json⟩ := member
    obtain ⟨first, ascending⟩ := List.pairwise_cons.mp ascending
    have later := ih ascending
    by_cases here : other = key
    · subst here
      rw [Entries.get?_eq_none first] at later
      cases json <;> simp [withoutNullMembers, Entries.get?, later, stripped?]
    · cases json <;> simp [withoutNullMembers, Entries.get?, later, here]

/-- Whether two documents are the same but for nulls, also where they are compared. -/
structure Alike (left right : Json) : Prop where
  stripped : left.withoutNulls = right.withoutNulls
  compared : ∀ place, left.normal? place = right.normal? place

theorem Alike.refl (json : Json) : json.Alike json := ⟨rfl, fun _ => rfl⟩

theorem bind_get?_mergeMembers {α : Type} {view : Json → Option α} (null : view .null = none)
    (ordered : Entries.Ascending patch)
    (covered : ∀ key, Entries.get? key patch = none → Entries.get? key members = none) {key : String}
    (same : ∀ value, Entries.get? key patch = some value →
      view (mergePatch ((Entries.get? key members).getD .null) value) = view value) :
    (Entries.get? key (mergeMembers members patch)).bind view =
      (Entries.get? key patch).bind view := by
  rw [get?_mergeMembers members ordered]
  cases said : Entries.get? key patch with
  | none => rw [covered key said]
  | some value =>
    have viewed := same value said
    cases value with
    | null => exact null.symm
    | bool | int | float | str | arr | obj => exact viewed

/-- A patch makes an object say what it says if it leaves out none of the members, and if what it
    puts under each key comes out of the merge with what was there. -/
theorem alike_mergeMembers (ascending : Entries.Ascending members)
    (ordered : Entries.Ascending patch)
    (covered : ∀ key, Entries.get? key patch = none → Entries.get? key members = none)
    (alike : ∀ key value, Entries.get? key patch = some value →
      (mergePatch ((Entries.get? key members).getD .null) value).Alike value) :
    (Json.obj (mergeMembers members patch)).Alike (.obj patch) where
  stripped := by
    have merged := ascending_mergeMembers ascending patch
    refine congrArg Json.obj ((ascending_withoutNullMembers merged).ext
      (ascending_withoutNullMembers ordered) fun key => ?_)
    rw [get?_withoutNullMembers merged, get?_withoutNullMembers ordered]
    refine bind_get?_mergeMembers rfl ordered covered fun value said => ?_
    have same := (alike key value said).stripped
    cases value with
    | obj entries => exact congrArg some same
    | null | bool | int | float | str | arr => rfl
  compared place := normal?_obj_congr fun key =>
    bind_get?_mergeMembers rfl ordered covered fun value said => (alike key value said).compared _

mutual

theorem mergePatch_self_alike : (json : Json) → json.Ordered → (json.mergePatch json).Alike json
  | .obj members, ⟨ascending, ordered⟩ => by
    refine alike_mergeMembers ascending ascending (fun _ => id) fun key value found => ?_
    simp only [membersOf, found, Option.getD_some]
    exact mergePatch_member_alike members ordered key value found
  | .arr _, _ | .null, _ | .bool _, _ | .int _, _ | .float _, _ | .str _, _ => .refl _

theorem mergePatch_member_alike : (members : List (String × Json)) →
    OrderedMembers members → ∀ key value, Entries.get? key members = some value →
      (value.mergePatch value).Alike value
  | (other, json) :: members, ⟨first, later⟩, key, value, found => by
    rw [Entries.get?] at found
    split at found
    · cases found
      exact mergePatch_self_alike json first
    · exact mergePatch_member_alike members later key value found

end

end Json

end AutoscalerOperator
