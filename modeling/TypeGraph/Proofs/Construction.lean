import TypeGraph.Proofs.Registry
import Mathlib.Data.List.Induction

/-! What a model keeps of its declarations: the first of each name, unless a built-in scalar has the
name. Each of the others leaves one diagnostic and nothing else. -/
namespace TypeGraph

namespace TypeDecl

variable {decls : List TypeDecl} {decl : TypeDecl} {name : String}

/-- Whether the name is new behind the declarations of `earlier`, and no built-in scalar has it. -/
def isNew (earlier : List TypeDecl) (decl : TypeDecl) : Bool :=
  !BuiltIn.isName decl.name && !(earlier.map (·.name)).contains decl.name

/-- Every declaration, in order, each with all that come before it. -/
def inContext (decls : List TypeDecl) : List (List TypeDecl × TypeDecl) :=
  decls.zipIdx.map fun entry => (decls.take entry.2, entry.1)

/-- The first declarations of their names, without those of built-in scalars' names. -/
def firsts (decls : List TypeDecl) : List TypeDecl :=
  ((inContext decls).filter fun entry => isNew entry.1 entry.2).map (·.2)

/-- All declarations but the first ones. -/
def repeats (decls : List TypeDecl) : List TypeDecl :=
  ((inContext decls).filter fun entry => !isNew entry.1 entry.2).map (·.2)

theorem isNew_iff {earlier : List TypeDecl} : isNew earlier decl = true ↔
    BuiltIn.isName decl.name = false ∧ decl.name ∉ earlier.map (·.name) := by
  simp [isNew]

/-- A declaration at the end stands behind all others and changes nothing for them. -/
theorem inContext_append_singleton :
    inContext (decls ++ [decl]) = inContext decls ++ [(decls, decl)] := by
  have earlier : ∀ entry ∈ decls.zipIdx,
      ((decls ++ [decl]).take entry.2, entry.1) = (decls.take entry.2, entry.1) := by
    intro entry member
    have inside := List.snd_lt_of_mem_zipIdx member
    rw [List.take_append_of_le_length (by omega)]
  simp only [inContext, List.zipIdx_append, List.map_append, List.map_congr_left earlier]
  simp

@[simp] theorem firsts_nil : firsts [] = [] := rfl

theorem firsts_append_singleton : firsts (decls ++ [decl]) =
    firsts decls ++ if isNew decls decl then [decl] else [] := by
  cases new : isNew decls decl <;> simp [firsts, inContext_append_singleton, new]

theorem repeats_append_singleton : repeats (decls ++ [decl]) =
    repeats decls ++ if isNew decls decl then [] else [decl] := by
  cases new : isNew decls decl <;> simp [repeats, inContext_append_singleton, new]

theorem mem_of_mem_inContext {entry : List TypeDecl × TypeDecl} (listed : entry ∈ inContext decls) :
    entry.2 ∈ decls := by
  obtain ⟨place, within, rfl⟩ := List.mem_map.mp listed
  exact List.fst_mem_of_mem_zipIdx within

theorem mem_of_mem_firsts (kept : decl ∈ firsts decls) : decl ∈ decls := by
  obtain ⟨entry, listed, rfl⟩ := List.mem_map.mp kept
  exact mem_of_mem_inContext (List.mem_filter.mp listed).1

theorem mem_of_mem_repeats (dropped : decl ∈ repeats decls) : decl ∈ decls := by
  obtain ⟨entry, listed, rfl⟩ := List.mem_map.mp dropped
  exact mem_of_mem_inContext (List.mem_filter.mp listed).1

/-- Every declaration is a first one or a repeat. -/
theorem length_firsts_add_repeats (decls : List TypeDecl) :
    (firsts decls).length + (repeats decls).length = decls.length := by
  induction decls using List.reverseRecOn with
  | nil => rfl
  | append_singleton decls decl ih =>
    rw [firsts_append_singleton, repeats_append_singleton]
    split <;> simp <;> omega

theorem mem_names_firsts_iff : name ∈ (firsts decls).map (·.name) ↔
    name ∈ decls.map (·.name) ∧ BuiltIn.isName name = false := by
  induction decls using List.reverseRecOn with
  | nil => simp
  | append_singleton decls decl ih =>
    rw [firsts_append_singleton, List.map_append, List.mem_append, ih]
    cases new : isNew decls decl with
    | true =>
      have free := (isNew_iff.mp new).1
      simp only [if_true, List.map_append, List.map_cons, List.map_nil, List.mem_append,
        List.mem_singleton, or_and_right]
      refine or_congr_right (iff_self_and.mpr ?_)
      rintro rfl
      exact free
    | false =>
      simp only [Bool.false_eq_true, if_false, List.map_append, List.map_cons, List.map_nil,
        List.mem_append, List.mem_singleton, List.not_mem_nil, or_false, or_and_right]
      refine (or_iff_left_of_imp ?_).symm
      rintro ⟨rfl, free⟩
      refine ⟨by_contra fun fresh => ?_, free⟩
      rw [isNew_iff.mpr ⟨free, fresh⟩] at new
      cases new

/-- What a model says about a declaration that it does not keep. -/
def refusal (decl : TypeDecl) : Diagnostic where
  finding :=
    if BuiltIn.isName decl.name then .reservedTypeName decl.name else .duplicateTypeName decl.name
  location := decl.location

end TypeDecl

namespace Registry

open TypeDecl (firsts repeats isNew refusal)

variable {decls : List TypeDecl}

theorem names_of_firsts {name : String} :
    name ∈ (builtIn.types ++ (firsts decls).map TypeDef.declared).map (·.name) ↔
      BuiltIn.isName name = true ∨ name ∈ decls.map (·.name) := by
  have names : ((firsts decls).map TypeDef.declared).map TypeDef.name = (firsts decls).map (·.name) := by
    simp [Function.comp_def]
  rw [List.map_append, builtIn_names, names, List.mem_append, TypeDecl.mem_names_firsts_iff,
    isName_eq_true_iff.symm]
  cases BuiltIn.isName name <;> simp

/-- A declaration is turned away unless it is new, and always for the same reason. -/
theorem conflict?_firsts {arena : Arena} {decl : TypeDecl}
    (types : arena.types = builtIn.types ++ (firsts decls).map .declared) :
    conflict? arena decl = if isNew decls decl then none else some (refusal decl).finding := by
  cases reserved : BuiltIn.isName decl.name with
  | true => simp [conflict?, isNew, refusal, reserved]
  | false =>
    have found : arena.index.contains decl.name = (decls.map (·.name)).contains decl.name := by
      rw [Bool.eq_iff_iff, Arena.contains_index_iff, types, names_of_firsts]
      simp [reserved]
    simp only [conflict?, isNew, refusal, reserved, found, Bool.false_eq_true, if_false,
      Bool.not_false, Bool.true_and]
    cases (decls.map (·.name)).contains decl.name <;> rfl

/-- The first declarations become types and the others are reported, each in their order. -/
theorem firsts_and_repeats_ofDecls (decls : List TypeDecl) :
    (ofDecls decls).types = builtIn.types ++ (firsts decls).map .declared ∧
      (ofDecls decls).conflicts = (repeats decls).map refusal := by
  induction decls using List.reverseRecOn with
  | nil => exact ⟨(List.append_nil _).symm, rfl⟩
  | append_singleton decls decl ih =>
    obtain ⟨types, conflicts⟩ := ih
    have next : ofDecls (decls ++ [decl]) = (ofDecls decls).add decl := by simp [ofDecls]
    have verdict : conflict? (ofDecls decls).toArena decl = _ := conflict?_firsts types
    rw [next, TypeDecl.firsts_append_singleton, TypeDecl.repeats_append_singleton]
    cases new : isNew decls decl with
    | true =>
      rw [new, if_pos rfl] at verdict
      rw [types_add_of_new verdict, conflicts_add_of_new verdict, types, conflicts]
      simp
    | false =>
      rw [new, if_neg Bool.false_ne_true] at verdict
      rw [add_of_conflict verdict, types, conflicts]
      simp [refusal]

theorem types_ofDecls : (ofDecls decls).types = builtIn.types ++ (firsts decls).map .declared :=
  (firsts_and_repeats_ofDecls decls).1

theorem conflicts_ofDecls : (ofDecls decls).conflicts = (repeats decls).map refusal :=
  (firsts_and_repeats_ofDecls decls).2

theorem nodup_names_firsts : ((firsts decls).map (·.name)).Nodup := by
  have unique : UniqueNames (ofDecls decls).types := unique_ofDecls
  rw [types_ofDecls, UniqueNames, List.map_append] at unique
  simpa [Function.comp_def] using (List.nodup_append.mp unique).2.1

/-- The first declarations alone give the same types, and no conflicts. -/
theorem ofDecls_firsts : ofDecls (firsts decls) = { ofDecls decls with conflicts := [] } := by
  have unbuilt : ∀ decl ∈ firsts decls, BuiltIn.isName decl.name = false := by
    intro decl member
    exact (TypeDecl.mem_names_firsts_iff.mp (List.mem_map_of_mem member)).2
  obtain ⟨types, quiet⟩ :=
    foldl_add_of_fresh unbuilt ((nodup_names_append_iff unbuilt).mpr nodup_names_firsts)
  exact ext_types (types.trans types_ofDecls.symm) quiet

end Registry

namespace TypeDecl

theorem message_refusal (decl : TypeDecl) :
    (refusal decl).message = ⟨.error, (refusal decl).finding.text, decl.location⟩ := by
  have severity : (refusal decl).finding.severity = .error := by
    unfold refusal
    split <;> rfl
  rw [Diagnostic.message, severity, refusal]

end TypeDecl

/-- The declarations without the types that a model does not keep. -/
def Declarations.withoutRepeats (declarations : Declarations) : Declarations :=
  { declarations with types := TypeDecl.firsts declarations.types }

namespace Model

theorem ofDeclarations_withoutRepeats (declarations : Declarations) :
    ofDeclarations declarations.withoutRepeats =
      { ofDeclarations declarations with conflicts := [] } := by
  simp only [ofDeclarations, Declarations.withoutRepeats, Registry.ofDecls_firsts]

/-- A model of declarations has the built-in scalars and the first declarations for types. All others
are reported as errors and leave no other trace. -/
structure KeepsFirsts (model : Model) (declarations : Declarations) : Prop where
  types : model.types =
    BuiltIn.all.map .builtIn ++ (TypeDecl.firsts declarations.types).map .declared
  distinct : (model.types.map (·.name)).Nodup
  /-- The index leads to the position of the type that has the name. -/
  indexed : ∀ name position, model.index.get? name = some position ↔
    ∃ type, model.types[position]? = some type ∧ type.name = name
  found : ∀ name type, model.type? name = some type ↔ type ∈ model.types ∧ type.name = name
  conflicts : model.conflicts = (TypeDecl.repeats declarations.types).map TypeDecl.refusal
  counted : model.types.length + model.conflicts.length = 7 + declarations.types.length
  /-- Without the declarations that it does not keep, the model is the same but for the reports. -/
  untraced : ofDeclarations declarations.withoutRepeats = { model with conflicts := [] }
  /-- Validation finds the same behind the reports. -/
  reported : model.validate.messages =
    (TypeDecl.repeats declarations.types).map
      (fun decl => ⟨.error, (TypeDecl.refusal decl).finding.text, decl.location⟩) ++
    (ofDeclarations declarations.withoutRepeats).validate.messages

/-- Every model keeps the first declarations of their names, wherever other ones stand among them. -/
theorem keeps_first_declarations (declarations : Declarations) :
    (ofDeclarations declarations).KeepsFirsts declarations := by
  have types : (ofDeclarations declarations).types =
      BuiltIn.all.map .builtIn ++ (TypeDecl.firsts declarations.types).map .declared :=
    Registry.types_ofDecls
  have conflicts : (ofDeclarations declarations).conflicts =
      (TypeDecl.repeats declarations.types).map TypeDecl.refusal :=
    Registry.conflicts_ofDecls
  have untraced := ofDeclarations_withoutRepeats declarations
  constructor
  case types => exact types
  case distinct => exact Registry.unique_ofDecls
  case indexed => exact fun name position => Arena.get?_index_eq_some_iff
  case found => exact fun name type => Arena.type?_eq_some_iff
  case conflicts => exact conflicts
  case counted =>
    have scalars : BuiltIn.all.length = 7 := rfl
    have total := TypeDecl.length_firsts_add_repeats declarations.types
    simp only [types, conflicts, List.length_append, List.length_map, scalars]
    omega
  case untraced => exact untraced
  case reported =>
    have reports : (TypeDecl.repeats declarations.types).map
          (fun decl => ⟨.error, (TypeDecl.refusal decl).finding.text, decl.location⟩) =
        (ofDeclarations declarations).conflicts.map (·.message) := by
      simp [conflicts, TypeDecl.message_refusal]
    rw [reports, untraced]
    simp only [validate, diagnostics, List.nil_append, List.map_append, List.append_assoc]
    rfl

end Model
end TypeGraph
