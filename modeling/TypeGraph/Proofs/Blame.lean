import TypeGraph.Source
import TypeGraph.Proofs.Checks
import TypeGraph.Proofs.Loading
import TypeGraph.Proofs.Stamping

/-! Validation shows each fault at the declaration at fault. So no message speaks of what nobody
declared, and a message has a place whenever its declaration has one. -/
namespace TypeGraph

namespace Declarations

open TypeDecl (firsts repeats refusal)
open Validation (mem_type_scalar_iff mem_type_enum_iff mem_type_object_iff mem_profile_iff
  mem_bundle_iff)

variable {declarations : Declarations} {finding : Finding} {location : Option SourceLocation}

theorem mem_types_iff {type : TypeDef} : type ∈ (Model.ofDeclarations declarations).types ↔
    (∃ scalar, type = .builtIn scalar) ∨ ∃ decl ∈ firsts declarations.types, type = .declared decl := by
  have types : (Model.ofDeclarations declarations).types =
      BuiltIn.all.map .builtIn ++ (firsts declarations.types).map .declared :=
    Registry.types_ofDecls
  simp [types, BuiltIn.mem_all, eq_comm]

/-- Validation says what is wrong with the declarations, all of it, and nothing else. -/
theorem mem_diagnostics_iff : ⟨finding, location⟩ ∈ (Model.ofDeclarations declarations).diagnostics ↔
    declarations.Blames finding location := by
  have conflicts : (Model.ofDeclarations declarations).conflicts =
      (repeats declarations.types).map refusal := Registry.conflicts_ofDecls
  have bound {name : String} {profile : ProfileDecl} :
      (name, profile) ∈ (Model.ofDeclarations declarations).profiles.entries ↔
        declarations.profiles.get? name = some profile := Dictionary.get?_eq_some_iff.symm
  simp only [Model.diagnostics_eq, List.mem_append, List.mem_flatMap, conflicts, List.mem_map]
  constructor
  · rintro (((⟨decl, dropped, same⟩ | ⟨type, member, found⟩) | ⟨⟨name, profile⟩, member, found⟩)
      | ⟨bundle, listed, found⟩)
    · obtain ⟨rfl, rfl⟩ := Diagnostic.mk.inj same
      exact .dropped dropped
    · rcases mem_types_iff.mp member with ⟨scalar, rfl⟩ | ⟨decl, kept, rfl⟩
      · cases found
      · cases decl with
        | scalar decl =>
          obtain ⟨fault, rfl⟩ := mem_type_scalar_iff.mp found
          exact .type kept fault
        | enum decl =>
          rcases mem_type_enum_iff.mp found with ⟨fault, rfl⟩ | ⟨earlier, value, later, split, fault⟩
          · exact .type kept fault
          · exact .value kept split fault
        | object kind decl =>
          rcases mem_type_object_iff.mp found with ⟨fault, rfl⟩ | ⟨field, listed, fault, rfl⟩
          · exact .type kept fault
          · exact .field kept listed fault
    · obtain ⟨⟨permission, granted, empty⟩, rfl, rfl⟩ := mem_profile_iff.mp found
      exact .profile (bound.mp member) granted empty
    · obtain ⟨fault, rfl⟩ := mem_bundle_iff.mp found
      exact .bundle listed fault
  · intro blames
    have kept_mem {decl : TypeDecl} (kept : decl ∈ firsts declarations.types) :=
      mem_types_iff.mpr (.inr ⟨decl, kept, rfl⟩)
    cases blames with
    | dropped dropped => exact .inl (.inl (.inl ⟨_, dropped, rfl⟩))
    | @type decl _ kept fault =>
      refine .inl (.inl (.inr ⟨_, kept_mem kept, ?_⟩))
      cases decl with
      | scalar decl => exact mem_type_scalar_iff.mpr ⟨fault, rfl⟩
      | enum decl => exact mem_type_enum_iff.mpr (.inl ⟨fault, rfl⟩)
      | object kind decl => exact mem_type_object_iff.mpr (.inl ⟨fault, rfl⟩)
    | field kept listed fault =>
      exact .inl (.inl (.inr ⟨_, kept_mem kept, mem_type_object_iff.mpr (.inr ⟨_, listed, fault, rfl⟩)⟩))
    | value kept split fault =>
      exact .inl (.inl (.inr ⟨_, kept_mem kept,
        mem_type_enum_iff.mpr (.inr ⟨_, _, _, split, fault⟩)⟩))
    | profile given granted empty =>
      exact .inl (.inr ⟨_, bound.mpr given, mem_profile_iff.mpr ⟨⟨_, granted, empty⟩, rfl, rfl⟩⟩)
    | bundle listed fault => exact .inr ⟨_, listed, mem_bundle_iff.mpr ⟨fault, rfl⟩⟩

theorem Blames.located (blames : declarations.Blames finding location)
    (located : declarations.Located) : location ≠ none := by
  cases blames with
  | dropped dropped => exact located.types _ (TypeDecl.mem_of_mem_repeats dropped)
  | type kept => exact located.types _ (TypeDecl.mem_of_mem_firsts kept)
  | field kept listed => exact located.fields _ (TypeDecl.mem_of_mem_firsts kept) _ listed
  | @value enum earlier later decl _ _ kept split fault =>
    have listed : decl ∈ enum.values := by simp [split]
    have own : decl.location ≠ none :=
      located.values _ (TypeDecl.mem_of_mem_firsts kept) decl listed
    cases fault with
    | repeated repeated => simp [own]
    | literal new fault => exact own
  | profile given => exact located.profiles _ _ given
  | bundle listed => exact located.bundles _ listed

section Files
variable {files : Files} {path : String} {paths : List String}

theorem located_of_load (loaded : load files path = .ok declarations) : declarations.Located := by
  obtain ⟨document, _, rfl⟩ := load_eq_ok_iff.mp loaded
  exact located_stamp document path

theorem located_of_loadAll (loaded : loadAll files paths = .ok declarations) :
    declarations.Located := by
  obtain ⟨sources, loads, rfl⟩ := TextReader.loadAll_eq_ok_iff.mp loaded
  refine Located.mergeAll fun source member => ?_
  obtain ⟨path, _, loaded⟩ := loads.exists_path member
  exact located_of_load loaded

end Files

/-- The messages of validation are the faults of the declarations, each with the location of the
declaration at fault. There is none about a built-in scalar or a system field, and none without a
location where every declaration has one, as in what was stamped or read from files. -/
theorem messages_blame_declarations (declarations : Declarations) :
    (∀ message, message ∈ (Model.ofDeclarations declarations).validate.messages ↔
      ∃ finding location, declarations.Blames finding location ∧
        message = ⟨finding.severity, finding.text, location⟩) ∧
    (∀ scalar, Validation.type (Model.ofDeclarations declarations).type? declarations.profiles
      (.builtIn scalar) = []) ∧
    (∀ object : ObjectType, ∀ field ∈ object.systemFields,
      Validation.field (Model.ofDeclarations declarations).type? field = []) ∧
    (declarations.Located →
      ∀ message ∈ (Model.ofDeclarations declarations).validate.messages, message.location ≠ none) ∧
    (∀ source, (declarations.stamp source).Located) ∧
    (∀ files path, load files path = .ok declarations → declarations.Located) ∧
    ∀ files paths, loadAll files paths = .ok declarations → declarations.Located := by
  have messages : ∀ message, message ∈ (Model.ofDeclarations declarations).validate.messages ↔
      ∃ finding location, declarations.Blames finding location ∧
        message = ⟨finding.severity, finding.text, location⟩ := by
    intro message
    rw [Model.validate, List.mem_map]
    constructor
    · rintro ⟨⟨finding, location⟩, found, rfl⟩
      exact ⟨finding, location, mem_diagnostics_iff.mp found, rfl⟩
    · rintro ⟨finding, location, blames, rfl⟩
      exact ⟨⟨finding, location⟩, mem_diagnostics_iff.mpr blames, rfl⟩
  refine ⟨messages, fun scalar => rfl, ?_, ?_, located_stamp declarations, ?_, ?_⟩
  · intro object field system
    exact Validation.field_of_mem_systemFields system
  · intro located message said
    obtain ⟨finding, location, blames, rfl⟩ := (messages message).mp said
    exact blames.located located
  · intro files path loaded
    exact located_of_load loaded
  · intro files paths loaded
    exact located_of_loadAll loaded

/-- Two types of one name, the first with a field that every entity has, in a document without any
locations. -/
def clashes : Declarations where
  types := [
    .object .rootEntity {
      name := "Item"
      fields := [{ name := "code", typeName := "String" }, { name := "id", typeName := "ID" }] },
    .enum { name := "Item", values := [{ value := "SOLD" }] }]

/-- The second type and the declared field are blamed at their places in the document. -/
theorem clashes_blamed :
    (Model.ofDeclarations (clashes.stamp "shop.json")).validate.messages.map (·.location) =
      [some { source := "shop.json", pointer := some "/types/1" },
        some { source := "shop.json", pointer := some "/types/0/fields/1" }] ∧
    ∀ message ∈ (Model.ofDeclarations (clashes.stamp "shop.json")).validate.messages,
      message.location ≠ none :=
  ⟨by decide +kernel,
    (messages_blame_declarations (clashes.stamp "shop.json")).2.2.2.1
      ((messages_blame_declarations clashes).2.2.2.2.1 "shop.json")⟩

end Declarations
end TypeGraph
