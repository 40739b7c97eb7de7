import TypeGraph.Proofs.Acceptance
import TypeGraph.Proofs.Pairing

/-! The ends of relations. Whatever is declared, a relation rests on relation fields that lead to each
other's types, and looking its ends up in the model never fails. -/
namespace TypeGraph

variable {types : List TypeDef} {relation : Relation} {field partner near : Field}
  {far : Option Field}

namespace Relation

/-- A relation field of an object type with this name, which leads to `target`. -/
structure IsEnd (types : List TypeDef) (owner name target : String) (field : Field) : Prop where
  owned : ∃ object ∈ objectsOf types, object.name = owner ∧ field ∈ object.fields
  named : field.name = name
  relation : field.isRelation = true
  leads : field.typeName = target

/-- Of the fields at the two ends either only the far one names an inverse, which is the near one, or
both name one and the near one names the far one. -/
def Oriented (near far : Field) : Prop :=
  near.inverseOf = none ∧ far.inverseOf = some near.name ∨
    far.inverseOf.isSome = true ∧ near.inverseOf = some far.name

/-- The fields that a relation is made of: one that leads from type to type and perhaps another one
that leads back. -/
structure RestsOn (types : List TypeDef) (relation : Relation) (near : Field) (far : Option Field) :
    Prop where
  start : IsEnd types relation.fromType relation.fromField relation.toType near
  target : ∃ object ∈ objectsOf types, object.name = relation.toType
  toField : relation.toField = far.map (·.name)
  back : ∀ other, far = some other →
    IsEnd types relation.toType other.name relation.fromType other ∧
      (relation.fromType, relation.fromField) ≠ (relation.toType, other.name) ∧ Oriented near other

theorem isEnd_of_mem (member : field ∈ relationFields types) :
    IsEnd types field.owner field.name field.typeName field := by
  obtain ⟨object, kept, owned, relation⟩ := mem_relationFields_iff.mp member
  exact ⟨⟨object, kept, (ObjectType.owner_of_mem_fields owned).symm, owned⟩, rfl, relation, rfl⟩

/-- A field alone makes a relation to its type. -/
theorem restsOn_oneWay {target : ObjectType} (member : field ∈ relationFields types)
    (found : findObject? types field.typeName = some target) :
    RestsOn types (oneWay field target) field none := by
  obtain ⟨kept, named⟩ := mem_of_findObject? found
  refine ⟨?_, ⟨target, kept, rfl⟩, rfl, by simp⟩
  rw [oneWay, named]
  exact isEnd_of_mem member

/-- Two fields that lead to each other's types make a relation in the direction that they are
oriented in. -/
theorem restsOn_joined (member : near ∈ relationFields types) (answered : field ∈ relationFields types)
    (leads : near.typeName = field.owner) (back : field.typeName = near.owner)
    (apart : near.key ≠ field.key) (oriented : Oriented near field) :
    RestsOn types ⟨near.owner, near.name, field.owner, some field.name⟩ near (some field) := by
  have nearEnd := isEnd_of_mem member
  have farEnd := isEnd_of_mem answered
  obtain ⟨object, kept, named, _⟩ := farEnd.owned
  refine ⟨leads ▸ nearEnd, ⟨object, kept, named⟩, rfl, ?_⟩
  rintro other ⟨⟩
  exact ⟨back ▸ farEnd, apart, oriented⟩

/-- Whichever of two joined fields is met first, their relation rests on both. -/
theorem exists_restsOn_ofPair {used : List (String × String)} {target : ObjectType}
    (unique : UniqueNames types) (member : field ∈ relationFields types)
    (found : findObject? types field.typeName = some target)
    (chosen : field.partner? target used = some partner) :
    ∃ near far, RestsOn types (ofPair field partner) near far := by
  obtain ⟨here, faced, _, joins⟩ := Field.of_partner? chosen
  obtain ⟨relation, back, apart⟩ := Field.facedBy_iff.mp faced
  obtain ⟨answered, owner⟩ := (unique.mem_target_iff found).mp ⟨here, relation⟩
  unfold ofPair
  split
  · next turned =>
    -- the field met first names its partner, and the partner names none: the partner is near
    obtain ⟨named, forward⟩ := Bool.and_eq_true_iff.mp turned
    have forward := Option.isNone_iff_eq_none.mp forward
    have names : field.inverseOf = some partner.name := by
      rcases joins with names | ⟨none, _⟩
      · exact names
      · simp [none] at named
    exact ⟨partner, some field, restsOn_joined answered member back owner.symm apart
      (.inl ⟨forward, names⟩)⟩
  · next straight =>
    refine ⟨field, some partner, restsOn_joined member answered owner.symm back apart.symm ?_⟩
    rcases joins with names | ⟨forward, names⟩
    · refine .inr ⟨?_, names⟩
      cases inverse : partner.inverseOf with
      | none => simp [names, inverse] at straight
      | some name => rfl
    · exact .inl ⟨forward, names⟩

/-- Taking up a field adds only relations that rest on fields. -/
theorem exists_restsOn_step {before after : Pairing} (unique : UniqueNames types)
    (member : field ∈ relationFields types) (step : Pairing.Step types before field after)
    (earlier : ∀ relation ∈ before.relations, ∃ near far, RestsOn types relation near far) :
    ∀ relation ∈ after.relations, ∃ near far, RestsOn types relation near far := by
  cases step with
  | used | lost => exact earlier
  | paired _ found chosen =>
    exact List.forall_mem_cons.mpr ⟨exists_restsOn_ofPair unique member found chosen, earlier⟩
  | alone _ found =>
    exact List.forall_mem_cons.mpr ⟨⟨field, none, restsOn_oneWay member found⟩, earlier⟩

theorem exists_restsOn (unique : UniqueNames types)
    (member : relation ∈ resolve (findType? types) types) :
    ∃ near far, RestsOn types relation near far := by
  have all : ∀ relation ∈ (Pairing.run types (relationFields types)).relations,
      ∃ near far, RestsOn types relation near far :=
    Pairing.run_induction (motive := fun _ pairing => ∀ relation ∈ pairing.relations, ∃ near far,
      RestsOn types relation near far) (by simp)
    fun _ _ _ _ within earlier step =>
      exists_restsOn_step unique (within.subset (by simp)) step earlier
  exact all relation (List.mem_reverse.mp member)

end Relation

namespace Model

variable {model : Model} {owner name target : String}

/-- The end of a relation is looked up without fail; if names tell fields apart it is the one found. -/
theorem exists_field_of_isEnd (unique : UniqueNames model.types)
    (isEnd : Relation.IsEnd model.types owner name target field) :
    ∃ found, (model.object owner >>= (·.field name)) = .ok found ∧
      ((∀ object ∈ model.objects, object.UniqueFields) → found = field) := by
  obtain ⟨object, kept, named, member⟩ := isEnd.owned
  have here : model.object owner = .ok object := by
    have found : model.object? owner = some object :=
      model.object?_eq ▸ unique.findObject?_eq_some_iff.mpr ⟨kept, named⟩
    simp [Model.object, found]
  have some : (object.field? name).isSome = true :=
    List.find?_isSome.mpr ⟨field, member, by simp [isEnd.named]⟩
  obtain ⟨first, found⟩ := Option.isSome_iff_exists.mp some
  refine ⟨first, ?_, fun fields => ?_⟩
  · rw [here]
    simp [bind, Except.bind, ObjectType.field, found]
  · have own := (fields object kept).field?_eq_some_iff.mpr ⟨member, isEnd.named⟩
    exact Option.some.inj (found.symm.trans own)

/-- Without errors, names tell the fields of every type apart. -/
theorem uniqueFields_of_accepted {declarations : Declarations}
    (accepted : (ofDeclarations declarations).validate.hasErrors = false) :
    ∀ object ∈ (ofDeclarations declarations).objects, object.UniqueFields := by
  have valid := Declarations.hasErrors_eq_false_iff.mp accepted
  exact valid.uniqueFields (Registry.keeps_ofDecls valid.conflicts_eq_nil)

/-- Every relation of a model, accepted or not, rests on relation fields of its object types. Looking
its ends up gives fields, and without errors it gives the very fields that the relation rests on. -/
theorem relation_ends (declarations : Declarations) {relation : Relation}
    (member : relation ∈ (ofDeclarations declarations).relations) :
    ∃ near far, relation.RestsOn (ofDeclarations declarations).types near far ∧
      (∃ found, relation.nearEnd (ofDeclarations declarations) = .ok found) ∧
      (∃ found, relation.farEnd (ofDeclarations declarations) = .ok found) ∧
      ((ofDeclarations declarations).validate.hasErrors = false →
        relation.nearEnd (ofDeclarations declarations) = .ok near ∧
          relation.farEnd (ofDeclarations declarations) = .ok far) := by
  have unique : UniqueNames (ofDeclarations declarations).types := Registry.unique_ofDecls
  obtain ⟨near, far, rests⟩ := Relation.exists_restsOn unique (relations_eq ▸ member)
  obtain ⟨first, nearFound, nearOnly⟩ := exists_field_of_isEnd unique rests.start
  have farFound : ∃ found, relation.farEnd (ofDeclarations declarations) = .ok found ∧
      ((∀ object ∈ (ofDeclarations declarations).objects, object.UniqueFields) → found = far) := by
    unfold Relation.farEnd
    rw [rests.toField]
    cases far with
    | none => exact ⟨none, rfl, fun _ => rfl⟩
    | some other =>
      obtain ⟨second, found, only⟩ := exists_field_of_isEnd unique (rests.back other rfl).1
      refine ⟨some second, ?_, fun fields => congrArg some (only fields)⟩
      simp only [Option.map_some]
      rw [← bind_assoc, found]
      rfl
  obtain ⟨second, farFound, farOnly⟩ := farFound
  refine ⟨near, far, rests, ⟨first, nearFound⟩, ⟨second, farFound⟩, fun accepted => ?_⟩
  have fields := uniqueFields_of_accepted accepted
  exact ⟨nearOnly fields ▸ nearFound, farOnly fields ▸ farFound⟩

namespace Shadowed

/-- A person whose relation to friends bears the name of a system field. -/
def declarations : Declarations where
  types := [.object .rootEntity { name := "Person", fields := [
    { name := "id", typeName := "Person", isRelation := true, inverseOf := some "friend" },
    { name := "friend", typeName := "Person", isRelation := true, inverseOf := some "id" }] }]

def friendship : Relation := ⟨"Person", "id", "Person", some "friend"⟩

/-- The two fields name each other, and the near end is looked up although a system field hides it. -/
theorem friendship_ends : friendship ∈ (ofDeclarations declarations).relations ∧
    ∃ near far, friendship.RestsOn (ofDeclarations declarations).types near far ∧
      (∃ found, friendship.nearEnd (ofDeclarations declarations) = .ok found) ∧
      (∃ found, friendship.farEnd (ofDeclarations declarations) = .ok found) ∧
      ((ofDeclarations declarations).validate.hasErrors = false →
        friendship.nearEnd (ofDeclarations declarations) = .ok near ∧
          friendship.farEnd (ofDeclarations declarations) = .ok far) :=
  ⟨by decide, relation_ends declarations (by decide)⟩

end Shadowed
end Model
end TypeGraph
