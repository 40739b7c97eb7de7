import TypeGraph.Proofs.Acceptance
import TypeGraph.Proofs.DeclaredRelations
import Mathlib.Data.List.Perm.Basic

/-! The relations of a model without errors are those that its declarations spell out, in whatever
order types and fields are declared. -/
namespace TypeGraph

variable {types : List TypeDef} {declarations : Declarations} {decls before after : List TypeDecl}

namespace TypeDecl

def relationFields : TypeDecl → List Field
  | object kind decl => ObjectType.relationFields ⟨kind, decl⟩
  | _ => []

/-- The same declaration, except perhaps for the order of fields. -/
inductive Reordered : TypeDecl → TypeDecl → Prop where
  | same (decl : TypeDecl) : Reordered decl decl
  | fields (kind : ObjectKind) (decl : ObjectDecl) {fields : List FieldDecl}
      (perm : decl.fields.Perm fields) :
      Reordered (object kind decl) (object kind { decl with fields })

/-- The same declarations in some order, each with its fields in some order. -/
def ReorderedAll (before after : List TypeDecl) : Prop :=
  ∃ middle, before.Perm middle ∧ List.Forall₂ Reordered middle after

variable {decl other : TypeDecl}

theorem Reordered.symm (reordered : Reordered decl other) : Reordered other decl := by
  cases reordered with
  | same => exact .same _
  | fields kind decl perm => exact .fields kind { decl with fields := _ } perm.symm

theorem Reordered.name_eq (reordered : Reordered decl other) : other.name = decl.name := by
  cases reordered <;> rfl

theorem Reordered.relationFields_perm (reordered : Reordered decl other) :
    other.relationFields.Perm decl.relationFields := by
  cases reordered with
  | same => exact .refl _
  | fields kind decl perm => exact ((perm.symm.map _).append_left _).filter _

namespace ReorderedAll

theorem symm (reordered : ReorderedAll before after) : ReorderedAll after before := by
  obtain ⟨middle, perm, related⟩ := reordered
  have back : List.Forall₂ Reordered after middle := (related.imp fun _ _ => Reordered.symm).flip
  have swapped := List.forall₂_comp_perm_eq_perm_comp_forall₂ (r := Reordered)
  exact (congrFun₂ swapped after before).mp ⟨middle, back, perm.symm⟩

theorem names_perm (reordered : ReorderedAll before after) :
    (after.map (·.name)).Perm (before.map (·.name)) := by
  obtain ⟨middle, perm, related⟩ := reordered
  refine .trans ?_ (perm.map _).symm
  clear perm
  induction related with
  | nil => exact .refl _
  | cons first _ ih =>
    rw [List.map_cons, List.map_cons, first.name_eq]
    exact ih.cons _

theorem relationFields_perm (reordered : ReorderedAll before after) :
    (after.flatMap (·.relationFields)).Perm (before.flatMap (·.relationFields)) := by
  obtain ⟨middle, perm, related⟩ := reordered
  refine .trans ?_ (perm.flatMap_right _).symm
  clear perm
  induction related with
  | nil => exact .refl _
  | cons first _ ih => exact first.relationFields_perm.append ih

theorem exists_of_mem (reordered : ReorderedAll before after) (member : decl ∈ after) :
    ∃ earlier ∈ before, Reordered earlier decl := by
  obtain ⟨middle, perm, related⟩ := reordered
  suffices found : ∃ earlier ∈ middle, Reordered earlier decl by
    obtain ⟨earlier, here, same⟩ := found
    exact ⟨earlier, perm.mem_iff.mpr here, same⟩
  clear perm
  induction related with
  | nil => cases member
  | cons first _ ih =>
    cases List.mem_cons.mp member with
    | inl same => exact ⟨_, List.mem_cons_self, same ▸ first⟩
    | inr later =>
      obtain ⟨earlier, here, same⟩ := ih later
      exact ⟨earlier, List.mem_cons_of_mem _ here, same⟩

/-- Every object type was there before, with its fields in some order. -/
theorem exists_object {kind : ObjectKind} {object : ObjectDecl}
    (reordered : ReorderedAll before after) (member : .object kind object ∈ after) :
    ∃ earlier, .object kind earlier ∈ before ∧ earlier.name = object.name ∧
      earlier.fields.Perm object.fields := by
  obtain ⟨earlier, here, same⟩ := reordered.exists_of_mem member
  cases same with
  | same => exact ⟨object, here, rfl, .refl _⟩
  | fields _ decl perm => exact ⟨decl, here, rfl, perm⟩

end ReorderedAll
end TypeDecl

/-- The relation fields of all types that are declared. -/
def Declarations.relationFields (declarations : Declarations) : List Field :=
  declarations.types.flatMap (·.relationFields)

theorem Registry.Keeps.relationFields_eq (keeps : Registry.Keeps types decls) :
    relationFields types = decls.flatMap (·.relationFields) := by
  have scalars : (BuiltIn.all.map TypeDef.builtIn).filterMap (·.object?) = [] := rfl
  rw [relationFields, keeps.shape, List.filterMap_append, scalars, List.nil_append]
  clear keeps
  induction decls with
  | nil => rfl
  | cons decl rest ih =>
    rw [List.flatMap_cons, ← ih]
    cases decl <;> rfl

theorem TypeDecl.ReorderedAll.conflicts_eq_nil (reordered : TypeDecl.ReorderedAll before after)
    (clean : (Registry.ofDecls before).conflicts = []) : (Registry.ofDecls after).conflicts = [] := by
  rw [Registry.conflicts_ofDecls_eq_nil_iff] at clean ⊢
  refine ⟨fun decl member => ?_, reordered.names_perm.nodup_iff.mpr clean.2⟩
  obtain ⟨earlier, here, same⟩ := reordered.exists_of_mem member
  rw [same.name_eq]
  exact clean.1 earlier here

namespace Coherent

section Reordering
variable {reorderedTypes : List TypeDef} (coherent : Coherent types)
  (keeps : Registry.Keeps types before) (other : Registry.Keeps reorderedTypes after)
  (reordered : TypeDecl.ReorderedAll before after)
include keeps other reordered

theorem mem_reordered_iff (field : Field) :
    field ∈ relationFields reorderedTypes ↔ field ∈ relationFields types := by
  rw [keeps.relationFields_eq, other.relationFields_eq]
  exact reordered.relationFields_perm.mem_iff

include coherent

/-- Order does not matter: what holds of declarations in one order holds of them in any other. -/
theorem reordered_coherent : Coherent reorderedTypes := by
  have listed := mem_reordered_iff keeps other reordered
  refine ⟨⟨other.unique, ?_⟩, ?_, ?_, ?_⟩
  · intro object member
    obtain ⟨earlier, here, named, perm⟩ := reordered.exists_object (other.mem_objectsOf_iff.mp member)
    have unique := coherent.fields ⟨object.kind, earlier⟩ (keeps.mem_objectsOf_iff.mpr here)
    rw [ObjectType.uniqueFields_iff] at unique ⊢
    exact ⟨(perm.map _).nodup_iff.mp unique.1, fun entity field declared =>
      unique.2 entity field (perm.mem_iff.mpr declared)⟩
  · intro field member
    obtain ⟨target, found⟩ :=
      Option.isSome_iff_exists.mp (coherent.leads field ((listed field).mp member))
    obtain ⟨kept, named⟩ := mem_of_findObject? found
    obtain ⟨later, here, same, _⟩ := reordered.symm.exists_object (keeps.mem_objectsOf_iff.mp kept)
    have laterKept : ⟨target.kind, later⟩ ∈ objectsOf reorderedTypes :=
      other.mem_objectsOf_iff.mpr here
    simp [other.unique.findObject?_eq_some_iff.mpr ⟨laterKept, same.trans named⟩]
  · simpa only [listed] using coherent.answers
  · simpa only [listed] using coherent.single

theorem resolve_perm : (Relation.resolve (findType? reorderedTypes) reorderedTypes).Perm
    (Relation.resolve (findType? types) types) := by
  have listed := mem_reordered_iff keeps other reordered
  have otherCoherent := coherent.reordered_coherent keeps other reordered
  refine (List.perm_ext_iff_of_nodup Relation.nodup_resolve Relation.nodup_resolve).mpr fun relation => ?_
  rw [coherent.mem_resolve_iff, otherCoherent.mem_resolve_iff]
  constructor
  · exact Relates.of_same_members fun field => (listed field).symm
  · exact Relates.of_same_members listed

end Reordering

/-- The rule for relation fields, read off a well-formed declaration of the field. -/
theorem exists_target (valid : declarations.WellFormed)
    (keeps : Registry.Keeps types declarations.types) {field : Field}
    (member : field ∈ relationFields types) :
    ∃ target ∈ objectsOf types, target.name = field.typeName ∧
      field.decl.AgreesWith field.owner target.decl := by
  obtain ⟨object, kept, owned, relation⟩ := mem_relationFields_iff.mp member
  obtain ⟨decl, declared, rfl⟩ := ObjectType.declared_of_isRelation owned relation
  have objectValid := valid.objectWellFormed keeps kept
  obtain ⟨-, target, ⟨root, named⟩, agrees⟩ := (objectValid.fields decl declared).relation relation
  exact ⟨⟨.rootEntity, target⟩, keeps.mem_objectsOf_iff.mpr root, named, agrees⟩

/-- Fields that invert one forward field are declared by the type that the field leads to. -/
theorem declared_of_inverts (unique : UniqueNames types) {target : ObjectType} {field inverse : Field}
    (aim : target ∈ objectsOf types) (named : target.name = field.typeName)
    (member : inverse ∈ relationFields types) (inverts : inverse.Inverts field) :
    ∃ decl ∈ target.decl.fields, inverse = .ofDecl target.name decl ∧
      decl.Inverts field.owner field.name := by
  obtain ⟨owned, relation⟩ := unique.mem_fields_of_owner aim member (inverts.there.trans named.symm)
  obtain ⟨decl, declared, rfl⟩ := ObjectType.declared_of_isRelation owned relation
  exact ⟨decl, declared, rfl, relation, inverts.back, inverts.names⟩

/-- Where all rules hold, fields and inverses match. -/
theorem of_wellFormed (valid : declarations.WellFormed)
    (keeps : Registry.Keeps types declarations.types) : Coherent types := by
  refine ⟨⟨keeps.unique, valid.uniqueFields keeps⟩, ?_, ?_, ?_⟩
  · intro field member
    obtain ⟨target, kept, named, -⟩ := exists_target valid keeps member
    simp [keeps.unique.findObject?_eq_some_iff.mpr ⟨kept, named⟩]
  · intro inverse member named
    obtain ⟨target, kept, leads, agrees⟩ := exists_target valid keeps member
    obtain ⟨name, names⟩ := Option.isSome_iff_exists.mp named
    have names : inverse.decl.inverseOf = some name := names
    simp only [FieldDecl.AgreesWith, names] at agrees
    obtain ⟨decl, declared, rfl, relation, back, forward⟩ := agrees
    refine ⟨.ofDecl target.name decl, mem_relationFields_iff.mpr
      ⟨target, kept, ObjectType.ofDecl_mem_fields declared, relation⟩, ?_⟩
    exact ⟨leads.symm, back.symm, forward, names⟩
  · intro field member first firstMember second secondMember left right
    obtain ⟨target, kept, named, agrees⟩ := exists_target valid keeps member
    have forward : field.decl.inverseOf = none := left.forward
    simp only [FieldDecl.AgreesWith, forward] at agrees
    obtain ⟨decl, declared, rfl, inverts⟩ :=
      declared_of_inverts keeps.unique kept named firstMember left
    obtain ⟨other, otherDeclared, rfl, otherInverts⟩ :=
      declared_of_inverts keeps.unique kept named secondMember right
    rw [agrees decl declared other otherDeclared inverts otherInverts]

end Coherent

namespace Declarations

/-- Without errors the relations of a model are those that its declarations spell out, each once.
Every field that names an inverse is the far end of one relation, and that starts at the inverse;
there are as many relations as fields without one. No order of types or fields changes them. -/
theorem relations_of_accepted (declarations : Declarations)
    (accepted : (Model.ofDeclarations declarations).validate.hasErrors = false) :
    (Model.ofDeclarations declarations).relations.Nodup ∧
    (∀ relation, relation ∈ (Model.ofDeclarations declarations).relations ↔
      Relates declarations.relationFields relation) ∧
    (∀ inverse ∈ declarations.relationFields, ∀ name, inverse.inverseOf = some name →
      (Model.ofDeclarations declarations).relations.filter (·.isTo inverse) =
        [⟨inverse.typeName, name, inverse.owner, some inverse.name⟩]) ∧
    (Model.ofDeclarations declarations).relations.length =
      declarations.relationFields.countP (·.inverseOf.isNone) ∧
    ∀ other : Declarations, TypeDecl.ReorderedAll declarations.types other.types →
      (Model.ofDeclarations other).relations.Perm (Model.ofDeclarations declarations).relations := by
  have valid := hasErrors_eq_false_iff.mp accepted
  have keeps := Registry.keeps_ofDecls valid.conflicts_eq_nil
  have coherent := Coherent.of_wellFormed valid keeps
  have same : declarations.relationFields = TypeGraph.relationFields _ := keeps.relationFields_eq.symm
  rw [same, Model.relations_eq]
  refine ⟨Relation.nodup_resolve, fun relation => coherent.mem_resolve_iff, ?_,
    coherent.length_resolve, ?_⟩
  · intro inverse member name names
    exact coherent.filter_isTo member names
  · intro other reordered
    have clean := reordered.conflicts_eq_nil valid.conflicts_eq_nil
    rw [Model.relations_eq]
    exact coherent.resolve_perm keeps (Registry.keeps_ofDecls clean) reordered

/-- Customers and their orders, and orders that replace others. -/
def shop : Declarations where
  types := [
    .object .rootEntity { name := "Customer", fields := [
      { name := "orders", typeName := "Order", isList := true, isRelation := true }] },
    .object .rootEntity { name := "Order", fields := [
      { name := "replaces", typeName := "Order", isRelation := true },
      { name := "customer", typeName := "Customer", isRelation := true,
        inverseOf := some "orders" }] }]

theorem shop_relations : (Model.ofDeclarations shop).validate.hasErrors = false ∧
    (Model.ofDeclarations shop).relations.length = 2 := by
  have accepted : (Model.ofDeclarations shop).validate.hasErrors = false := by decide
  exact ⟨accepted, (relations_of_accepted shop accepted).2.2.2.1⟩

end Declarations
end TypeGraph
