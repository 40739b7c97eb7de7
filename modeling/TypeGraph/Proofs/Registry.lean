import TypeGraph.Proofs.Arena

/-! What a registry admits. Its types never share a name, and nothing is turned away exactly when
the declared names are new, none of them built in. -/
namespace TypeGraph.Registry

variable {types : List TypeDef} {decls : List TypeDecl} {decl : TypeDecl} {arena : Arena}
  {registry other : Registry} {finding : Finding}

/-- The index of a registry follows from its types. -/
theorem ext_types (types : registry.types = other.types)
    (conflicts : registry.conflicts = other.conflicts) : registry = other := by
  obtain ⟨arena, conflicts⟩ := registry
  obtain ⟨otherArena, otherConflicts⟩ := other
  obtain rfl : arena = otherArena := Arena.ext_types types
  cases conflicts
  rfl

theorem conflict?_eq_none_iff : conflict? arena decl = none ↔
    BuiltIn.isName decl.name = false ∧ decl.name ∉ arena.types.map (·.name) := by
  rw [← Arena.contains_index_iff]
  unfold conflict?
  split
  · next reserved => simp [reserved]
  · next free =>
    split <;> simp_all

theorem add_of_conflict (verdict : conflict? registry.toArena decl = some finding) :
    registry.add decl =
      { registry with conflicts := registry.conflicts ++ [⟨finding, decl.location⟩] } := by
  unfold add
  split
  · next found =>
    obtain rfl := Option.some.inj (found.symm.trans verdict)
    rfl
  · next none => cases none.symm.trans verdict

theorem types_add_of_new (verdict : conflict? registry.toArena decl = none) :
    (registry.add decl).types = registry.types ++ [.declared decl] := by
  unfold add
  split
  · next found => cases found.symm.trans verdict
  · rfl

theorem conflicts_add_of_new (verdict : conflict? registry.toArena decl = none) :
    (registry.add decl).conflicts = registry.conflicts := by
  unfold add
  split
  · next found => cases found.symm.trans verdict
  · rfl

theorem builtIn_names : builtIn.types.map (·.name) = BuiltIn.names := rfl

theorem unique_ofDecls : UniqueNames (ofDecls decls).types := (ofDecls decls).unique

theorem conflicts_foldl_add_ne_nil (turned : registry.conflicts ≠ []) :
    (decls.foldl add registry).conflicts ≠ [] := by
  induction decls generalizing registry with
  | nil => exact turned
  | cons decl rest ih =>
    apply ih
    cases verdict : conflict? registry.toArena decl with
    | some finding => simp [add_of_conflict verdict]
    | none => rwa [conflicts_add_of_new verdict]

/-- Without a conflict every declaration stays, behind the types that were there. -/
theorem foldl_add_of_fresh (unbuilt : ∀ decl ∈ decls, BuiltIn.isName decl.name = false)
    (distinct : (registry.types.map (·.name) ++ decls.map (·.name)).Nodup) :
    (decls.foldl add registry).types = registry.types ++ decls.map .declared ∧
      (decls.foldl add registry).conflicts = registry.conflicts := by
  induction decls generalizing registry with
  | nil => simp
  | cons decl rest ih =>
    have fresh : decl.name ∉ registry.types.map (·.name) := by
      intro member
      exact (List.nodup_append.mp distinct).2.2 _ member _ (by simp) rfl
    have accepted : conflict? registry.toArena decl = none :=
      conflict?_eq_none_iff.mpr ⟨unbuilt decl (by simp), fresh⟩
    have types := types_add_of_new accepted
    have apart : ((registry.add decl).types.map (·.name) ++ rest.map (·.name)).Nodup := by
      simpa [types] using distinct
    obtain ⟨later, quiet⟩ := ih (fun other member => unbuilt other (by simp [member])) apart
    exact ⟨by simpa [types] using later, quiet.trans (conflicts_add_of_new accepted)⟩

theorem conflicts_foldl_add_eq_nil_iff (quiet : registry.conflicts = []) :
    (decls.foldl add registry).conflicts = [] ↔
      (∀ decl ∈ decls, BuiltIn.isName decl.name = false) ∧
        (registry.types.map (·.name) ++ decls.map (·.name)).Nodup := by
  constructor
  · intro clean
    induction decls generalizing registry with
    | nil => exact ⟨by simp, by simpa [UniqueNames] using registry.unique⟩
    | cons decl rest ih =>
      rw [List.foldl_cons] at clean
      cases verdict : conflict? registry.toArena decl with
      | some finding =>
        have turned : (registry.add decl).conflicts ≠ [] := by simp [add_of_conflict verdict]
        exact absurd clean (conflicts_foldl_add_ne_nil turned)
      | none =>
        have kept : (registry.add decl).conflicts = [] := (conflicts_add_of_new verdict).trans quiet
        obtain ⟨unbuilt, distinct⟩ := ih kept clean
        refine ⟨?_, by simpa [types_add_of_new verdict] using distinct⟩
        rintro other (_ | ⟨_, later⟩)
        · exact (conflict?_eq_none_iff.mp verdict).1
        · exact unbuilt other later
  · intro rules
    obtain ⟨unbuilt, distinct⟩ := rules
    exact (foldl_add_of_fresh unbuilt distinct).2.trans quiet

theorem isName_eq_true_iff {name : String} : BuiltIn.isName name = true ↔ name ∈ BuiltIn.names := by
  simp [BuiltIn.isName]

theorem nodup_names_append_iff (unbuilt : ∀ decl ∈ decls, BuiltIn.isName decl.name = false) :
    (builtIn.types.map (·.name) ++ decls.map (·.name)).Nodup ↔ (decls.map (·.name)).Nodup := by
  rw [builtIn_names]
  constructor
  · intro distinct
    exact (List.nodup_append.mp distinct).2.1
  · intro distinct
    refine List.nodup_append.mpr ⟨BuiltIn.nodup_names, distinct, ?_⟩
    rintro name reserved other member rfl
    obtain ⟨decl, declared, same⟩ := List.mem_map.mp member
    have free := unbuilt decl declared
    rw [same, isName_eq_true_iff.mpr reserved] at free
    cases free

/-- Nothing is turned away exactly when no declared name is built in and none occurs twice. -/
theorem conflicts_ofDecls_eq_nil_iff :
    (ofDecls decls).conflicts = [] ↔
      (∀ decl ∈ decls, BuiltIn.isName decl.name = false) ∧ (decls.map (·.name)).Nodup := by
  rw [ofDecls, conflicts_foldl_add_eq_nil_iff rfl]
  exact and_congr_right nodup_names_append_iff

/-- The types are the built-in scalars and all of the declarations, and no two share a name. -/
structure Keeps (types : List TypeDef) (decls : List TypeDecl) : Prop where
  shape : types = BuiltIn.all.map .builtIn ++ decls.map .declared
  unique : UniqueNames types

/-- Without a conflict every declaration becomes a type. -/
theorem keeps_ofDecls (clean : (ofDecls decls).conflicts = []) :
    Keeps (ofDecls decls).types decls := by
  obtain ⟨unbuilt, distinct⟩ := conflicts_ofDecls_eq_nil_iff.mp clean
  refine ⟨?_, unique_ofDecls⟩
  exact (foldl_add_of_fresh unbuilt ((nodup_names_append_iff unbuilt).mpr distinct)).1

namespace Keeps
variable (keeps : Keeps types decls)
include keeps

theorem declared_mem_iff {decl : TypeDecl} : .declared decl ∈ types ↔ decl ∈ decls := by
  simp [keeps.shape]

theorem mem_objectsOf_iff {object : ObjectType} :
    object ∈ objectsOf types ↔ .object object.kind object.decl ∈ decls := by
  rw [TypeGraph.mem_objectsOf_iff, keeps.declared_mem_iff]

theorem findType?_declared {decl : TypeDecl} (declared : decl ∈ decls) :
    findType? types decl.name = some (.declared decl) :=
  keeps.unique.findType?_eq_some_iff.mpr ⟨keeps.declared_mem_iff.mpr declared, rfl⟩

theorem findType?_builtIn (scalar : BuiltIn) :
    findType? types scalar.name = some (.builtIn scalar) :=
  keeps.unique.findType?_eq_some_iff.mpr ⟨by simp [keeps.shape, BuiltIn.mem_all], rfl⟩

theorem findType?_isSome_iff {name : String} : (findType? types name).isSome = true ↔
    name ∈ BuiltIn.names ∨ name ∈ decls.map (·.name) := by
  simp [TypeGraph.findType?_isSome_iff, keeps.shape, BuiltIn.names, Function.comp_def]

/-- What is found under a name is the type declared with that name. -/
theorem declared_iff {name : String} {type : TypeDef} (found : findType? types name = some type)
    {decl : TypeDecl} : decl ∈ decls ∧ decl.name = name ↔ type = .declared decl := by
  constructor
  · intro known
    obtain ⟨declared, rfl⟩ := known
    have here := keeps.findType?_declared declared
    exact Option.some.inj (found.symm.trans here)
  · rintro rfl
    obtain ⟨member, same⟩ := mem_of_findType? found
    exact ⟨keeps.declared_mem_iff.mp member, same⟩

theorem object_iff {name : String} {type : TypeDef} (found : findType? types name = some type)
    {kind : ObjectKind} {decl : ObjectDecl} :
    .object kind decl ∈ decls ∧ decl.name = name ↔ type = .declared (.object kind decl) :=
  keeps.declared_iff found

end Keeps
end TypeGraph.Registry
