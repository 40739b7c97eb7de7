import TypeGraph.Proofs.Pairing
import Mathlib.Data.Prod.Lex

/-! The order of relations. Fields have positions, and a relation is met at the smaller position of its
ends. By the turn of a field that is still free all earlier fields are used, so its other end stands
behind it, and relations are listed in the order in which they are met. -/
namespace TypeGraph

variable {types : List TypeDef} {field partner : Field} {target : ObjectType} {key : String × String}

/-- The index of a type, and then the index of a field within the type. -/
abbrev Position := Nat ×ₗ Nat

/-- A field and where it stands. -/
structure PlacedField where
  position : Position
  field : Field

/-- The fields that the type owns, none unless it is an object type. -/
def TypeDef.fields (type : TypeDef) : List Field := type.object?.elim [] (·.fields)

/-- All fields in order, with their positions. -/
def placedFields (types : List TypeDef) : List PlacedField :=
  types.zipIdx.flatMap fun entry =>
    entry.1.fields.zipIdx.map fun own => ⟨toLex (entry.2, own.2), own.1⟩

/-- The relation fields among them. -/
def placedRelations (types : List TypeDef) : List PlacedField :=
  (placedFields types).filter (·.field.isRelation)

/-- Whether the field has the owner and the name, and leads to an object type. -/
def PlacedField.answers (types : List TypeDef) (key : String × String) (placed : PlacedField) : Bool :=
  placed.field.key == key && (findObject? types placed.field.typeName).isSome

/-- The position of the first relation field of a name that leads to an object type. -/
def position? (types : List TypeDef) (key : String × String) : Option Position :=
  ((placedRelations types).find? (·.answers types key)).map (·.position)

/-- The smallest of the positions of a relation's ends, if all of them have one. -/
def Relation.encounter? (types : List TypeDef) (relation : Relation) : Option Position :=
  (relation.ends.mapM (position? types)).bind (·.min?)

namespace Relation

variable {first second : Position}

theorem encounter?_oneWay (here : position? types field.key = some first) :
    (oneWay field target).encounter? types = some first := by
  have ends : (oneWay field target).ends = [field.key] := rfl
  simp [encounter?, ends, here]

/-- Whichever way round, a pair is met where the first of its fields stands. -/
theorem encounter?_ofPair (here : position? types field.key = some first)
    (there : position? types partner.key = some second) (less : first < second) :
    (ofPair field partner).encounter? types = some first := by
  have either : (ofPair field partner).ends = [partner.key, field.key] ∨
      (ofPair field partner).ends = [field.key, partner.key] := by
    unfold ofPair
    split
    · exact .inl rfl
    · exact .inr rfl
  rcases either with ends | ends
  · simp [encounter?, ends, here, there, min_eq_right_of_lt less]
  · simp [encounter?, ends, here, there, min_eq_left_of_lt less]

end Relation

theorem fields_placedFields : (placedFields types).map (·.field) = types.flatMap (·.fields) := by
  have names (entry : TypeDef × Nat) : (entry.1.fields.zipIdx.map fun own =>
      (⟨toLex (entry.2, own.2), own.1⟩ : PlacedField)).map (·.field) = entry.1.fields := by
    rw [List.map_map]
    exact List.zipIdx_map_fst 0 entry.1.fields
  rw [placedFields, List.map_flatMap]
  simp only [names]
  rw [← List.flatMap_map Prod.fst TypeDef.fields, List.zipIdx_map_fst]

theorem fields_placedRelations : (placedRelations types).map (·.field) = relationFields types := by
  have kept : (placedRelations types).map (·.field) =
      ((placedFields types).map (·.field)).filter (·.isRelation) := by
    rw [List.filter_map]
    rfl
  rw [kept, fields_placedFields, relationFields]
  clear kept
  induction types with
  | nil => rfl
  | cons type rest ih =>
    rw [List.flatMap_cons, List.filter_append, ih, TypeDef.fields]
    cases owns : type.object? with
    | none => simp [owns]
    | some object => simp [owns, ObjectType.relationFields]

theorem pairwise_zipIdx {Item : Type} (items : List Item) :
    items.zipIdx.Pairwise (·.2 < ·.2) := by
  have indices : (items.zipIdx.map Prod.snd).Pairwise (· < ·) := by
    rw [List.zipIdx_map_snd]
    exact List.pairwise_lt_range' 1
  exact List.pairwise_map.mp indices

theorem sorted_placedFields : (placedFields types).Pairwise (·.position < ·.position) := by
  refine List.pairwise_flatMap.mpr ⟨fun entry _ => ?_, (pairwise_zipIdx types).imp ?_⟩
  · refine List.pairwise_map.mpr ((pairwise_zipIdx entry.1.fields).imp fun less => ?_)
    exact Prod.Lex.toLex_lt_toLex.mpr (.inr ⟨rfl, less⟩)
  · intro first second less left leftMember right rightMember
    obtain ⟨_, _, rfl⟩ := List.mem_map.mp leftMember
    obtain ⟨_, _, rfl⟩ := List.mem_map.mp rightMember
    exact Prod.Lex.toLex_lt_toLex.mpr (.inl less)

theorem sorted_placedRelations : (placedRelations types).Pairwise (·.position < ·.position) :=
  sorted_placedFields.filter _

namespace Pairing

variable {earlier later : List PlacedField} {next : PlacedField}

section Turn
variable (parts : placedRelations types = earlier ++ next :: later)
include parts

/-- What is free has its position here or further on: all earlier fields that lead anywhere are
used. -/
theorem position?_of_free (free : key ∉ (run types (earlier.map (·.field))).used) :
    position? types key = ((next :: later).find? (·.answers types key)).map (·.position) := by
  have passed : earlier.find? (·.answers types key) = none := by
    rw [List.find?_eq_none]
    intro placed member accepted
    simp only [PlacedField.answers, Bool.and_eq_true, beq_iff_eq] at accepted
    obtain ⟨rfl, leads⟩ := accepted
    obtain ⟨target, found⟩ := Option.isSome_iff_exists.mp leads
    exact free (key_mem_run (List.mem_map_of_mem member) found)
  rw [position?, parts, List.find?_append, passed, Option.none_or]

/-- A field that is free in its turn stands where it is met. -/
theorem position?_next (free : next.field.key ∉ (run types (earlier.map (·.field))).used)
    (found : findObject? types next.field.typeName = some target) :
    position? types next.field.key = some next.position := by
  have answers : next.answers types next.field.key = true := by simp [PlacedField.answers, found]
  rw [position?_of_free parts free, List.find?_cons_of_pos answers, Option.map_some]

/-- Another field that is free by then stands behind it. -/
theorem position?_partner (free : partner.key ∉ (run types (earlier.map (·.field))).used)
    (relates : partner.CanRelate types) (apart : partner.key ≠ next.field.key) :
    ∃ position, position? types partner.key = some position ∧ next.position < position := by
  obtain ⟨listed, leads⟩ := relates
  rw [← fields_placedRelations] at listed
  obtain ⟨placed, member, rfl⟩ := List.mem_map.mp listed
  have present : (position? types placed.field.key).isSome = true := by
    rw [position?, Option.isSome_map, List.find?_isSome]
    exact ⟨placed, member, by simp [PlacedField.answers, leads]⟩
  obtain ⟨position, here⟩ := Option.isSome_iff_exists.mp present
  refine ⟨position, here, ?_⟩
  have other : ¬next.answers types placed.field.key = true := by
    simp [PlacedField.answers, Ne.symm apart]
  rw [position?_of_free parts free, List.find?_cons_of_neg other] at here
  obtain ⟨first, behind, rfl⟩ := Option.map_eq_some_iff.mp here
  have sorted : (earlier ++ next :: later).Pairwise (·.position < ·.position) :=
    parts ▸ sorted_placedRelations
  have ahead := (List.pairwise_append.mp sorted).2.1
  exact (List.pairwise_cons.mp ahead).1 first (List.mem_of_find?_eq_some behind)

end Turn

/-- The relations so far, latest first, were met at positions of fields taken up, one after the
other. -/
def MetInTurn (types : List TypeDef) (done : List PlacedField) (pairing : Pairing) : Prop :=
  (pairing.relations.map (Relation.encounter? types)).Sublist
    (done.map fun placed => some placed.position).reverse

/-- A field that is taken up adds no relation, or one that is met at the field's own position. -/
theorem MetInTurn.step {after : Pairing} (unique : UniqueNames types)
    (parts : placedRelations types = earlier ++ next :: later)
    (met : MetInTurn types earlier (run types (earlier.map (·.field))))
    (step : Step types (run types (earlier.map (·.field))) next.field after) :
    MetInTurn types (earlier ++ [next]) after := by
  have turns : ((earlier ++ [next]).map fun placed => some placed.position).reverse =
      some next.position :: (earlier.map fun placed => some placed.position).reverse := by simp
  rw [MetInTurn, turns]
  cases step with
  | used | lost => exact met.cons _
  | paired free found chosen =>
    have listed : next.field ∈ relationFields types := by
      rw [← fields_placedRelations, parts]
      simp
    obtain ⟨_, faced, partnerFree, _⟩ := Field.of_partner? chosen
    obtain ⟨position, there, behind⟩ := position?_partner parts partnerFree
      (unique.canRelate_of_partner? listed found chosen) (Field.facedBy_iff.mp faced).2.2
    rw [List.map_cons, Relation.encounter?_ofPair (position?_next parts free found) there behind]
    exact met.cons_cons _
  | alone free found =>
    rw [List.map_cons, Relation.encounter?_oneWay (position?_next parts free found)]
    exact met.cons_cons _

theorem metInTurn_run (unique : UniqueNames types) {done : List PlacedField}
    (within : done <+: placedRelations types) :
    MetInTurn types done (run types (done.map (·.field))) := by
  induction done using List.reverseRecOn with
  | nil => simp [MetInTurn, run]
  | append_singleton earlier next ih =>
    obtain ⟨later, parts⟩ := within
    rw [List.append_assoc, List.singleton_append] at parts
    rw [List.map_append, List.map_singleton, run_append_singleton]
    exact (ih ⟨_, parts⟩).step unique parts.symm (visit_step types _ next.field)

end Pairing

namespace Model

/-- Relations are listed in the order in which they are met: all of their ends have positions, and the
smaller position of the two ends increases along the list. -/
theorem relations_in_order_met (declarations : Declarations) :
    ∃ positions : List Position, (ofDeclarations declarations).relations.map
        (·.encounter? (ofDeclarations declarations).types) = positions.map some ∧
      positions.Pairwise (· < ·) := by
  have unique : UniqueNames (ofDeclarations declarations).types := Registry.unique_ofDecls
  have met := Pairing.metInTurn_run unique (List.prefix_refl _)
  rw [Pairing.MetInTurn, fields_placedRelations, ← List.reverse_sublist, List.reverse_reverse,
    ← List.map_reverse] at met
  obtain ⟨placed, within, same⟩ := List.sublist_map_iff.mp met
  refine ⟨placed.map (·.position), ?_, List.pairwise_map.mpr (sorted_placedRelations.sublist within)⟩
  rw [List.map_map, relations_eq]
  exact same

/-- An inverse that is declared first is met first, and so is its relation, which starts elsewhere. -/
example :
    let types : List TypeDef := [
      .declared (.object .valueObject { name := "Shipment", fields := [
        { name := "code", typeName := "Delivery" },
        { name := "delivery", typeName := "Delivery", isRelation := true,
          inverseOf := some "shipment" }] }),
      .declared (.object .valueObject { name := "Delivery", fields := [
        { name := "shipment", typeName := "Shipment", isRelation := true }] })]
    (Relation.resolve (findType? types) types).map
        (fun relation => (relation.start, relation.encounter? types)) =
      [(("Delivery", "shipment"), some (toLex (0, 1)))] := by decide

end Model
end TypeGraph
