import TypeGraph.Proofs.Acceptance
import TypeGraph.Proofs.Conventions
import TypeGraph.Proofs.Queries

/-! The dotted names of namespaces. A name leads back to the path that it was made of unless a segment
has a dot, or is empty and alone. Neither is a valid name, so in a model without errors each namespace
has a dotted name of its own. -/
namespace TypeGraph

namespace Identifier

variable {name : String}

theorem ne_empty_of_isValid (valid : isValid name = true) : name ≠ "" := by
  rintro rfl
  cases valid

theorem dot_not_mem_of_isValid (valid : isValid name = true) : '.' ∉ name.toList := by
  intro member
  have tail : isTail '.' = true := isTail_of_isValid valid member
  revert tail
  decide

end Identifier

namespace Namespace

variable {ns : Namespace}

/-- Every segment on the way from the root is a valid name. -/
def WellNamed (ns : Namespace) : Prop := ∀ segment ∈ ns.path, Identifier.isValid segment = true

theorem dotted_eq_empty_iff : ns.dotted = "" ↔ ns.path = [] ∨ ns.path = [""] := by
  unfold dotted
  match ns.path with
  | [] => simp
  | [segment] => simp
  | first :: second :: rest => simp [String.intercalate_cons_cons]

/-- Joining forgets the path of a single empty segment, which looks like the root, and cannot tell
dots within segments from its own. -/
theorem spells_dotted_iff : Spells ns.dotted ns.path ↔
    ns.path ≠ [""] ∧ ∀ segment ∈ ns.path, '.' ∉ segment.toList := by
  constructor
  · intro spells
    obtain ⟨path⟩ := ns
    generalize joined : dotted ⟨path⟩ = name at spells
    cases spells with
    | root => simp
    | inner named plain =>
      refine ⟨fun lone => ?_, plain⟩
      exact named (joined ▸ dotted_eq_empty_iff.mpr (.inr lone))
  · rintro ⟨apart, plain⟩
    by_cases empty : ns.path = []
    · simpa [dotted, empty] using Spells.root
    · refine .inner (fun none => ?_) plain rfl
      exact (dotted_eq_empty_iff.mp none).elim empty apart

example : dotted ⟨["logistics.shipments"]⟩ = dotted ⟨["logistics", "shipments"]⟩ := by decide +kernel

theorem WellNamed.pathOfDotted_dotted (valid : ns.WellNamed) : pathOfDotted ns.dotted = ns.path := by
  refine pathOfDotted_eq_iff.mpr (spells_dotted_iff.mpr ⟨fun lone => ?_, fun segment member => ?_⟩)
  · have empty : Identifier.isValid "" = true := valid "" (by simp [lone])
    exact Identifier.ne_empty_of_isValid empty rfl
  · exact Identifier.dot_not_mem_of_isValid (valid segment member)

end Namespace

/-- The segments of a node are segments of some path that the tree is made of. -/
theorem NamespaceTree.wellNamed_of_mem_ofPaths {paths : List (List String)} {ns : Namespace}
    (valid : ∀ path ∈ paths, ∀ segment ∈ path, Identifier.isValid segment = true)
    (member : ns ∈ (ofPaths paths).namespaces) : ns.WellNamed := by
  rcases mem_ofPaths_iff.mp (mem_namespaces_iff.mp member) with root | ⟨whole, given, onTheWay⟩
  · simp [Namespace.WellNamed, root]
  · exact fun segment within => valid whole given segment (onTheWay.subset within)

namespace Declarations.WellFormed

variable {declarations : Declarations} (valid : declarations.WellFormed)
include valid

theorem wellNamed {ns : Namespace}
    (member : ns ∈ (Model.ofDeclarations declarations).namespaces.namespaces) : ns.WellNamed := by
  refine NamespaceTree.wellNamed_of_mem_ofPaths (fun path filed => ?_) member
  obtain ⟨object, kept, rfl⟩ := List.mem_map.mp filed
  have keeps := Registry.keeps_ofDecls valid.conflicts_eq_nil
  exact (valid.objectWellFormed keeps kept).path

end Declarations.WellFormed

namespace Model

/-- In a model without errors the dotted name of a namespace is answered by that namespace, and no
other namespace bears it. -/
theorem dotted_names_identify (declarations : Declarations)
    (accepted : (ofDeclarations declarations).validate.hasErrors = false) :
    (∀ ns ∈ (ofDeclarations declarations).namespaces.namespaces,
      Query.answer (.namespaceAt ns.dotted) (ofDeclarations declarations) =
        .ok (NamespaceView.toJson { name := ns.name, path := ns.path, isRoot := ns.isRoot })) ∧
    ∀ first ∈ (ofDeclarations declarations).namespaces.namespaces,
      ∀ second ∈ (ofDeclarations declarations).namespaces.namespaces,
        first ≠ second → first.dotted ≠ second.dotted := by
  have valid := Declarations.hasErrors_eq_false_iff.mp accepted
  constructor
  · intro ns member
    have path := (valid.wellNamed member).pathOfDotted_dotted
    have listed : NamespaceView.ofNamespace ns ∈ (ofDeclarations declarations).snapshot.namespaces :=
      List.mem_map_of_mem member
    have found : (ofDeclarations declarations).namespaceView? ns.path = some (.ofNamespace ns) :=
      namespaceView?_eq_some_iff.mpr ⟨listed, rfl⟩
    simp only [Query.answer, path, found, Json.nullable, NamespaceView.ofNamespace]
  · intro first firstKept second secondKept apart same
    refine apart (Namespace.path_injective ?_)
    calc first.path
        = Namespace.pathOfDotted first.dotted := (valid.wellNamed firstKept).pathOfDotted_dotted.symm
      _ = Namespace.pathOfDotted second.dotted := by rw [same]
      _ = second.path := (valid.wellNamed secondKept).pathOfDotted_dotted

namespace Logistics

/-- Shipments are two segments below the root, and nothing is filed in between. -/
def declarations : Declarations where
  types := [.object .rootEntity {
    name := "Shipment"
    namespacePath := ["logistics", "shipments"]
    fields := [{ name := "shipmentNumber", typeName := "String" }] }]

theorem namespaces_by_name : (ofDeclarations declarations).validate.hasErrors = false ∧
    Query.answer (.namespaceAt "logistics") (ofDeclarations declarations) =
      .ok (NamespaceView.toJson ⟨some "logistics", ["logistics"], false⟩) ∧
    Query.answer (.namespaceAt "logistics.shipments") (ofDeclarations declarations) =
      .ok (NamespaceView.toJson ⟨some "shipments", ["logistics", "shipments"], false⟩) ∧
    Query.answer (.namespaceAt "") (ofDeclarations declarations) =
      .ok (NamespaceView.toJson ⟨none, [], true⟩) := by
  have accepted : (ofDeclarations declarations).validate.hasErrors = false := by decide
  have answered := (dotted_names_identify declarations accepted).1
  exact ⟨accepted, answered ⟨["logistics"]⟩ (by decide),
    answered ⟨["logistics", "shipments"]⟩ (by decide), answered ⟨[]⟩ (by decide)⟩

end Logistics
end Model
end TypeGraph
