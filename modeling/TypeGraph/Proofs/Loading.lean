import TypeGraph.Source
import Mathlib.Data.List.Forall2

/-! Loading several files. Either all of them load, each to its own declarations, or one is the first
that does not; then nothing is asked of the files behind it, and its failure is the failure of all. -/
namespace TypeGraph.TextReader

variable {read : TextReader} {files other : Files} {path : String} {paths before : List String}
  {source : Declarations} {sources : List Declarations} {error : SourceError}

/-- Every file loads, and these are the declarations of the files in their order. -/
def Loads (read : TextReader) (files : Files) (paths : List String) (sources : List Declarations) :
    Prop :=
  List.Forall₂ (fun path source => read.load files path = .ok source) paths sources

/-- The file at the path does not load, and all those before it do. -/
structure FailsFirst (read : TextReader) (files : Files) (paths before : List String) (path : String)
    (error : SourceError) : Prop where
  among : ∃ after, paths = before ++ path :: after
  earlier : ∀ path ∈ before, ∃ source, read.load files path = .ok source
  fails : read.load files path = .error error

theorem loadEach_cons : read.loadEach files (path :: paths) = (do
    let source ← read.load files path
    let rest ← read.loadEach files paths
    return source :: rest) :=
  List.mapM_cons

theorem loadEach_cons_of_error (fails : read.load files path = .error error) :
    read.loadEach files (path :: paths) = .error error := by
  rw [loadEach_cons, fails]
  rfl

theorem loadEach_cons_of_ok (loaded : read.load files path = .ok source) :
    read.loadEach files (path :: paths) = (source :: ·) <$> read.loadEach files paths := by
  rw [loadEach_cons, loaded]
  cases read.loadEach files paths <;> rfl

theorem Loads.loadEach_eq (loads : read.Loads files paths sources) :
    read.loadEach files paths = .ok sources := by
  induction loads with
  | nil => rfl
  | cons here _ ih =>
    rw [loadEach_cons_of_ok here, ih]
    rfl

theorem Loads.exists_path (loads : read.Loads files paths sources) (member : source ∈ sources) :
    ∃ path ∈ paths, read.load files path = .ok source := by
  induction loads with
  | nil => cases member
  | cons here _ ih =>
    rcases List.mem_cons.mp member with rfl | later
    · exact ⟨_, List.mem_cons_self, here⟩
    · obtain ⟨path, among, loaded⟩ := ih later
      exact ⟨path, List.mem_cons_of_mem _ among, loaded⟩

theorem FailsFirst.loadEach_eq (first : read.FailsFirst files paths before path error) :
    read.loadEach files paths = .error error := by
  obtain ⟨⟨after, rfl⟩, earlier, fails⟩ := first
  induction before with
  | nil => exact loadEach_cons_of_error fails
  | cons head rest ih =>
    obtain ⟨⟨source, loaded⟩, others⟩ := List.forall_mem_cons.mp earlier
    rw [List.cons_append, loadEach_cons_of_ok loaded, ih others]
    rfl

theorem FailsFirst.cons (first : read.FailsFirst files paths before path error) {head : String}
    (loaded : read.load files head = .ok source) :
    read.FailsFirst files (head :: paths) (head :: before) path error := by
  obtain ⟨⟨after, rfl⟩, earlier, fails⟩ := first
  exact ⟨⟨after, rfl⟩, List.forall_mem_cons.mpr ⟨⟨source, loaded⟩, earlier⟩, fails⟩

theorem loads_or_failsFirst (read : TextReader) (files : Files) (paths : List String) :
    (∃ sources, read.Loads files paths sources) ∨
      ∃ before path error, read.FailsFirst files paths before path error := by
  induction paths with
  | nil => exact .inl ⟨[], .nil⟩
  | cons head rest ih =>
    cases loaded : read.load files head with
    | error error => exact .inr ⟨[], head, error, ⟨rest, rfl⟩, nofun, loaded⟩
    | ok source =>
      refine ih.imp ?_ ?_
      · rintro ⟨sources, loads⟩
        exact ⟨source :: sources, .cons loaded loads⟩
      · rintro ⟨before, path, error, first⟩
        exact ⟨head :: before, path, error, first.cons loaded⟩

theorem Loads.loadAll_eq (loads : read.Loads files paths sources) :
    read.loadAll files paths = .ok (Declarations.mergeAll sources) := by
  rw [loadAll, loads.loadEach_eq]
  rfl

theorem FailsFirst.loadAll_eq (first : read.FailsFirst files paths before path error) :
    read.loadAll files paths = .error error := by
  rw [loadAll, first.loadEach_eq]
  rfl

/-- What is loaded from several files is put together from what each of them loads to. -/
theorem loadAll_eq_ok_iff : read.loadAll files paths = .ok source ↔
    ∃ sources, read.Loads files paths sources ∧ source = Declarations.mergeAll sources := by
  constructor
  · intro loaded
    rcases loads_or_failsFirst read files paths with ⟨sources, loads⟩ | ⟨before, path, error, first⟩
    · exact ⟨sources, loads, Except.ok.inj (loaded.symm.trans loads.loadAll_eq)⟩
    · cases loaded.symm.trans first.loadAll_eq
  · rintro ⟨sources, loads, rfl⟩
    exact loads.loadAll_eq

/-- What fails with the first file that does not load, and otherwise asks something of what is loaded,
asks for both: that every file loads, and that. -/
theorem iff_loads_and {gate : Prop} {asks : List Declarations → Prop}
    (loaded : ∀ sources, read.Loads files paths sources → (gate ↔ asks sources))
    (failed : ∀ before path error, read.FailsFirst files paths before path error → ¬gate) :
    gate ↔ ∃ sources, read.Loads files paths sources ∧ asks sources := by
  constructor
  · intro passed
    rcases loads_or_failsFirst read files paths with ⟨sources, loads⟩ | ⟨before, path, error, first⟩
    · exact ⟨sources, loads, (loaded sources loads).mp passed⟩
    · exact absurd passed (failed before path error first)
  · rintro ⟨sources, loads, asked⟩
    exact (loaded sources loads).mpr asked

theorem load_congr (same : files path = other path) :
    read.load files path = read.load other path := by
  rw [load, load, same]

/-- Files behind the one that fails may be anything. -/
theorem FailsFirst.congr (first : read.FailsFirst files paths before path error)
    (same : ∀ path ∈ before, files path = other path) (here : files path = other path)
    (after : List String) : read.FailsFirst other (before ++ path :: after) before path error := by
  refine ⟨⟨after, rfl⟩, fun path member => ?_, load_congr here ▸ first.fails⟩
  rw [← load_congr (same path member)]
  exact first.earlier path member

end TypeGraph.TextReader
