import TypeGraph.Proofs.AcceptedRelations
import TypeGraph.Proofs.Construction
import TypeGraph.Proofs.Merging
import TypeGraph.Proofs.Namespaces

/-! Sources that declare no name twice may be merged in any order. Validation asks for other types by
their names only, so it finds the same where lookups give the same; what else depends on the order of
declarations are positions in lists. -/
namespace TypeGraph

variable {types others : List TypeDef} {decls : List TypeDecl} {sources reordered : List Declarations}

/-- The first type of a name is the only one, wherever it stands. -/
theorem UniqueNames.findType?_perm (unique : UniqueNames types) (perm : types.Perm others) :
    findType? types = findType? others := by
  have otherUnique : UniqueNames others := (perm.map _).nodup_iff.mp unique
  refine funext fun name => Option.ext fun type => ?_
  rw [unique.findType?_eq_some_iff, otherUnique.findType?_eq_some_iff, perm.mem_iff]

namespace TypeDecl

/-- No name is declared twice, except for those of built-in scalars. -/
def SoleNames (decls : List TypeDecl) : Prop :=
  ((decls.filter (!BuiltIn.isName ·.name)).map (·.name)).Nodup

theorem SoleNames.perm {reordered : List TypeDecl} (sole : SoleNames decls)
    (perm : decls.Perm reordered) : SoleNames reordered :=
  ((perm.filter _).map _).nodup_iff.mp sole

/-- Then declarations are turned away for the names of built-in scalars only. -/
theorem SoleNames.firsts_and_repeats (sole : SoleNames decls) :
    firsts decls = decls.filter (!BuiltIn.isName ·.name) ∧
      repeats decls = decls.filter (BuiltIn.isName ·.name) := by
  induction decls using List.reverseRecOn with
  | nil => exact ⟨rfl, rfl⟩
  | append_singleton decls decl ih =>
    rw [SoleNames, List.filter_append, List.map_append] at sole
    obtain ⟨earlier, -, apart⟩ := List.nodup_append.mp sole
    have new : isNew decls decl = !BuiltIn.isName decl.name := by
      cases reserved : BuiltIn.isName decl.name with
      | true => simp [isNew, reserved]
      | false =>
        refine isNew_iff.mpr ⟨reserved, fun member => ?_⟩
        obtain ⟨other, declared, same⟩ := List.mem_map.mp member
        have free : BuiltIn.isName other.name = false := same ▸ reserved
        exact apart other.name (List.mem_map_of_mem (List.mem_filter.mpr ⟨declared, by simp [free]⟩))
          decl.name (by simp [reserved]) same
    obtain ⟨kept, turned⟩ := ih earlier
    rw [firsts_append_singleton, repeats_append_singleton, kept, turned, new]
    cases reserved : BuiltIn.isName decl.name <;> simp [reserved]

theorem reorderedAll_of_perm {after : List TypeDecl} (perm : decls.Perm after) :
    ReorderedAll decls after :=
  ⟨after, perm, List.forall₂_same.mpr fun decl _ => .same decl⟩

end TypeDecl

/-- Types that are declared once each are the same in any order, and so is what is said about the
rest. -/
theorem Registry.ofDecls_perm {reordered : List TypeDecl} (sole : TypeDecl.SoleNames decls)
    (perm : decls.Perm reordered) :
    (ofDecls decls).types.Perm (ofDecls reordered).types ∧
      (ofDecls decls).conflicts.Perm (ofDecls reordered).conflicts := by
  obtain ⟨kept, turned⟩ := sole.firsts_and_repeats
  obtain ⟨otherKept, otherTurned⟩ := (sole.perm perm).firsts_and_repeats
  rw [types_ofDecls, types_ofDecls, conflicts_ofDecls, conflicts_ofDecls, kept, turned, otherKept,
    otherTurned]
  exact ⟨((perm.filter _).map _).append_left _, (perm.filter _).map _⟩

namespace Declarations

/-- No name is declared in two places: no type name of all sources but those of built-in scalars, and
no profile name by two sources. -/
structure Apart (sources : List Declarations) : Prop where
  types : TypeDecl.SoleNames (sources.flatMap (·.types))
  profiles : sources.Pairwise fun first second =>
    ∀ name ∈ first.profiles.keys, name ∉ second.profiles.keys

/-- Two sources without a common profile name override in either order. -/
theorem override_comm {first second : Declarations} (profiles : Dictionary ProfileDecl)
    (apart : ∀ name ∈ first.profiles.keys, name ∉ second.profiles.keys) :
    (profiles.override first.profiles).override second.profiles =
      (profiles.override second.profiles).override first.profiles := by
  refine Dictionary.ext_get? fun name => ?_
  simp only [Dictionary.get?_override]
  by_cases present : name ∈ first.profiles.keys
  · simp [Dictionary.get?_eq_none_iff.mpr (apart name present)]
  · simp [Dictionary.get?_eq_none_iff.mpr present]

theorem types_mergeAll_perm (perm : sources.Perm reordered) :
    (mergeAll sources).types.Perm (mergeAll reordered).types := by
  rw [mergeAll_eq, mergeAll_eq]
  exact perm.flatMap_right _

namespace Apart
variable (apart : Apart sources)
include apart

theorem soleNames : TypeDecl.SoleNames (mergeAll sources).types := by
  rw [mergeAll_eq]
  exact apart.types

theorem profiles_eq (perm : sources.Perm reordered) :
    (mergeAll sources).profiles = (mergeAll reordered).profiles := by
  rw [mergeAll_eq, mergeAll_eq]
  refine perm.foldl_eq' (fun first left second right profiles => ?_) _
  by_cases same : first = second
  · rw [same]
  · have symmetric : Std.Symm fun first second : Declarations =>
        ∀ name ∈ first.profiles.keys, name ∉ second.profiles.keys :=
      ⟨fun _ _ apart name later earlier => apart name earlier later⟩
    exact override_comm profiles (apart.profiles.forall left right same)

end Apart
end Declarations

namespace Report

variable {first second : Report} (perm : first.messages.Perm second.messages)
include perm

theorem errorCount_perm : first.errorCount = second.errorCount := (perm.filter _).length_eq

theorem warningCount_perm : first.warningCount = second.warningCount := (perm.filter _).length_eq

theorem hasErrors_perm : first.hasErrors = second.hasErrors := by
  rw [Bool.eq_iff_iff, hasErrors, hasErrors, List.any_eq_true, List.any_eq_true]
  simp only [perm.mem_iff]

theorem exitCode_perm (denyWarnings : Bool) :
    first.exitCode denyWarnings = second.exitCode denyWarnings := by
  rw [exitCode, exitCode, hasErrors_perm perm, warningCount_perm perm]

end Report

namespace Model

open Declarations (Apart mergeAll)

/-- The model of sources that are merged in their order. -/
def ofSources (sources : List Declarations) : Model := ofDeclarations (mergeAll sources)

section Order
variable (perm : sources.Perm reordered)
include perm

theorem ofSources_relations_perm (accepted : (ofSources sources).validate.hasErrors = false) :
    (ofSources sources).relations.Perm (ofSources reordered).relations := by
  have valid := Declarations.hasErrors_eq_false_iff.mp accepted
  have keeps := Registry.keeps_ofDecls valid.conflicts_eq_nil
  have coherent := Coherent.of_wellFormed valid keeps
  have moved := TypeDecl.reorderedAll_of_perm (Declarations.types_mergeAll_perm perm)
  have otherKeeps := Registry.keeps_ofDecls (moved.conflicts_eq_nil valid.conflicts_eq_nil)
  rw [ofSources, ofSources, relations_eq, relations_eq]
  exact (coherent.resolve_perm keeps otherKeeps moved).symm

variable (apart : Apart sources)
include apart

theorem ofSources_types_perm : (ofSources sources).types.Perm (ofSources reordered).types :=
  (Registry.ofDecls_perm apart.soleNames (Declarations.types_mergeAll_perm perm)).1

theorem ofSources_type? : (ofSources sources).type? = (ofSources reordered).type? := by
  rw [type?_eq, type?_eq]
  exact UniqueNames.findType?_perm Registry.unique_ofDecls (ofSources_types_perm perm apart)

theorem ofSources_messages_perm :
    (ofSources sources).validate.messages.Perm (ofSources reordered).validate.messages := by
  have types := ofSources_types_perm perm apart
  have same := ofSources_type? perm apart
  have profiles : (ofSources sources).profiles = (ofSources reordered).profiles :=
    apart.profiles_eq perm
  have conflicts : (ofSources sources).conflicts.Perm (ofSources reordered).conflicts :=
    (Registry.ofDecls_perm apart.soleNames (Declarations.types_mergeAll_perm perm)).2
  have bundles : (ofSources sources).bundles.Perm (ofSources reordered).bundles := by
    simp only [ofSources, ofDeclarations, Declarations.mergeAll_eq]
    exact perm.flatMap_right _
  refine List.Perm.map _ ?_
  rw [diagnostics, diagnostics, same, profiles]
  exact ((conflicts.append (types.flatMap_right _)).append_right _).append (bundles.flatMap_right _)

end Order

/-- Sources without a name in common give the same types by name, the same namespaces and the same
messages in any order; without errors they also give the same relations. -/
theorem sources_in_any_order (perm : sources.Perm reordered) (apart : Apart sources) :
    (∀ name, (ofSources sources).type? name = (ofSources reordered).type? name) ∧
    (ofSources sources).namespaces = (ofSources reordered).namespaces ∧
    (ofSources sources).validate.messages.Perm (ofSources reordered).validate.messages ∧
    (ofSources sources).validate.errorCount = (ofSources reordered).validate.errorCount ∧
    (ofSources sources).validate.warningCount = (ofSources reordered).validate.warningCount ∧
    (∀ denyWarnings, (ofSources sources).validate.exitCode denyWarnings =
      (ofSources reordered).validate.exitCode denyWarnings) ∧
    ((ofSources sources).validate.hasErrors = false →
      (ofSources sources).relations.Perm (ofSources reordered).relations) := by
  have messages := ofSources_messages_perm perm apart
  refine ⟨fun name => congrFun (ofSources_type? perm apart) name, ?_, messages,
    Report.errorCount_perm messages, Report.warningCount_perm messages,
    Report.exitCode_perm messages, ofSources_relations_perm perm⟩
  exact NamespaceTree.ofPaths_perm (((ofSources_types_perm perm apart).filterMap _).map _)

namespace Warehouse

/-- Orders, with a scalar that takes a built-in name, and who may see them. -/
def orders : Declarations where
  types := [
    .scalar { name := "String" },
    .object .rootEntity { name := "Order", permissionProfile := some "staff", fields := [
      { name := "customer", typeName := "Customer", isRelation := true,
        inverseOf := some "orders" }] }]
  profiles := .ofList [("staff", { permissions := [⟨["sales"], .readWrite⟩] })]

/-- Customers, with the same scalar again. -/
def customers : Declarations where
  types := [
    .object .rootEntity { name := "Customer", fields := [
      { name := "orders", typeName := "Order", isList := true, isRelation := true }] },
    .scalar { name := "String" }]

/-- A source without the types that take built-in names. -/
def sound (source : Declarations) : Declarations :=
  { source with types := source.types.filter (!BuiltIn.isName ·.name) }

/-- The names that are taken are told alike in either order. Without them no error is left, and the
orders of a customer are paired with the customer of an order, whichever source comes first. -/
theorem either_order :
    (Apart [orders, customers] ∧
      (ofSources [orders, customers]).validate.messages.Perm
        (ofSources [customers, orders]).validate.messages) ∧
    Apart [sound orders, sound customers] ∧
    (ofSources [sound orders, sound customers]).validate.hasErrors = false ∧
    (ofSources [sound orders, sound customers]).relations =
      [⟨"Customer", "orders", "Order", some "customer"⟩] ∧
    (ofSources [sound orders, sound customers]).relations.Perm
      (ofSources [sound customers, sound orders]).relations := by
  have apart : Apart [orders, customers] := ⟨by unfold TypeDecl.SoleNames; decide, by decide⟩
  have soundApart : Apart [sound orders, sound customers] :=
    ⟨by unfold TypeDecl.SoleNames; decide, by decide⟩
  have accepted : (ofSources [sound orders, sound customers]).validate.hasErrors = false := by
    decide +kernel
  exact ⟨⟨apart, (sources_in_any_order (List.Perm.swap ..) apart).2.2.1⟩, soundApart, accepted,
    by decide +kernel,
    (sources_in_any_order (List.Perm.swap ..) soundApart).2.2.2.2.2.2 accepted⟩

end Warehouse
end Model
end TypeGraph
