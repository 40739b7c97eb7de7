import TypeGraph.Permissions
import TypeGraph.Proofs.Grouping

/-! Who has an access under a profile. The roles are gathered permission by permission, those that do
not cover the access being passed over, and a role that has been listed is not listed again. So a role
stands where it is granted the access first, and which roles there are depends only on what is granted
to each. -/
namespace TypeGraph

variable {permission : Permission} {permissions others rest : List Permission} {access : Access}
  {role first second : String} {index place : Nat}

namespace Permission

/-- Every permission lets its roles read, and some let them write as well. -/
def Covers (permission : Permission) (access : Access) : Prop :=
  access = .read ∨ permission.access = .readWrite

theorem grants_iff : permission.grants access = true ↔ permission.Covers access := by
  obtain ⟨roles, granted⟩ := permission
  cases access <;> cases granted <;> simp [grants, Covers, Access.allowsWrite]

end Permission

/-- Some of the permissions grants the access to the role. -/
def Granted (permissions : List Permission) (access : Access) (role : String) : Prop :=
  ∃ permission ∈ permissions, permission.Covers access ∧ role ∈ permission.roles

/-- The permission at the index grants the access, and the role has this place in it. -/
def GrantedAt (permissions : List Permission) (access : Access) (role : String) (index place : Nat) :
    Prop :=
  ∃ permission, permissions[index]? = some permission ∧ permission.Covers access ∧
    permission.roles[place]? = some role

/-- The first role is granted the access somewhere before the second is granted it anywhere. -/
def GrantedEarlier (permissions : List Permission) (access : Access) (first second : String) : Prop :=
  ∃ index place, GrantedAt permissions access first index place ∧
    ∀ later other, GrantedAt permissions access second later other →
      index < later ∨ index = later ∧ place < other

/-- The roles that are granted the access, each once, in the order in which they are granted it
first. -/
structure ListsRoles (permissions : List Permission) (access : Access) (roles : List String) : Prop where
  complete : ∀ role, role ∈ roles ↔ Granted permissions access role
  once : roles.Nodup
  ordered : roles.Pairwise (GrantedEarlier permissions access)

theorem granted_cons_iff : Granted (permission :: rest) access role ↔
    permission.Covers access ∧ role ∈ permission.roles ∨ Granted rest access role := by
  simp only [Granted, List.mem_cons, or_and_right, exists_or, exists_eq_left]

theorem granted_append_iff : Granted (permissions ++ others) access role ↔
    Granted permissions access role ∨ Granted others access role := by
  simp only [Granted, List.mem_append, or_and_right, exists_or]

/-- All that permissions grant, one after the other. -/
def grantedRoles (permissions : List Permission) (access : Access) : List String :=
  (permissions.filter (·.grants access)).flatMap (·.roles)

theorem mem_grantedRoles_iff : role ∈ grantedRoles permissions access ↔
    Granted permissions access role := by
  simp only [grantedRoles, Granted, List.mem_flatMap, List.mem_filter, Permission.grants_iff,
    and_assoc]

theorem grantedRoles_cons_of_covers (covers : permission.Covers access) :
    grantedRoles (permission :: rest) access = permission.roles ++ grantedRoles rest access := by
  have kept : permission.grants access = true := Permission.grants_iff.mpr covers
  simp only [grantedRoles, List.filter_cons, kept, if_true, List.flatMap_cons]

theorem grantedRoles_cons_of_not_covers (passed : ¬permission.Covers access) :
    grantedRoles (permission :: rest) access = grantedRoles rest access := by
  have dropped : ¬permission.grants access = true := mt Permission.grants_iff.mp passed
  simp only [grantedRoles, List.filter_cons, dropped, Bool.false_eq_true, if_false]

theorem grantedAt_succ_iff : GrantedAt (permission :: rest) access role (index + 1) place ↔
    GrantedAt rest access role index place := by
  simp only [GrantedAt, List.getElem?_cons_succ]

theorem idxOf_le_of_getElem? {roles : List String} (stands : roles[place]? = some role) :
    roles.idxOf role ≤ place := by
  by_contra before
  obtain ⟨within, same⟩ := List.getElem?_eq_some_iff.mp stands
  have apart := List.not_of_lt_findIdx (Nat.lt_of_not_le before)
  simp [same] at apart

/-- What holds behind a permission that grants neither role anything holds with it in front. -/
theorem GrantedEarlier.cons (earlier : GrantedEarlier rest access first second)
    (unheard : permission.Covers access → second ∉ permission.roles) :
    GrantedEarlier (permission :: rest) access first second := by
  obtain ⟨index, place, granted, before⟩ := earlier
  refine ⟨index + 1, place, grantedAt_succ_iff.mpr granted, fun later other grantedLater => ?_⟩
  cases later with
  | zero =>
    obtain ⟨own, here, covers, stands⟩ := grantedLater
    cases here
    exact absurd (List.mem_of_getElem? stands) (unheard covers)
  | succ later =>
    have := before later other (grantedAt_succ_iff.mp grantedLater)
    omega

/-- The order in which roles come up is the order in which they are granted the access. -/
theorem grantedEarlier_of_idxOf_lt (less : (grantedRoles permissions access).idxOf first <
    (grantedRoles permissions access).idxOf second) :
    GrantedEarlier permissions access first second := by
  induction permissions with
  | nil => simp [grantedRoles] at less
  | cons permission rest ih =>
    by_cases covers : permission.Covers access
    · rw [grantedRoles_cons_of_covers covers] at less
      by_cases own : first ∈ permission.roles
      · rw [List.idxOf_append_of_mem own] at less
        refine ⟨0, permission.roles.idxOf first, ⟨permission, rfl, covers, ?_⟩, ?_⟩
        · exact List.getElem?_idxOf own
        · intro later other grantedLater
          cases later with
          | succ later => exact .inl (Nat.zero_lt_succ later)
          | zero =>
            obtain ⟨same, here, -, stands⟩ := grantedLater
            cases here
            rw [List.idxOf_append_of_mem (List.mem_of_getElem? stands)] at less
            exact .inr ⟨rfl, Nat.lt_of_lt_of_le less (idxOf_le_of_getElem? stands)⟩
      · have foreign : second ∉ permission.roles := by
          intro member
          rw [List.idxOf_append_of_notMem own, List.idxOf_append_of_mem member] at less
          have := List.idxOf_lt_length_of_mem member
          omega
        rw [List.idxOf_append_of_notMem own, List.idxOf_append_of_notMem foreign] at less
        exact (ih (by omega)).cons fun _ => foreign
    · rw [grantedRoles_cons_of_not_covers covers] at less
      exact (ih less).cons fun covered => absurd covered covers

namespace ProfileDecl

variable {profile other : ProfileDecl}

theorem rolesWith_eq : profile.rolesWith access =
    (grantedRoles profile.permissions access).eraseDups :=
  rfl

theorem mem_rolesWith_iff : role ∈ profile.rolesWith access ↔
    Granted profile.permissions access role := by
  rw [rolesWith_eq, List.mem_eraseDups, mem_grantedRoles_iff]

theorem listsRoles_rolesWith (profile : ProfileDecl) (access : Access) :
    ListsRoles profile.permissions access (profile.rolesWith access) := by
  constructor
  case complete => exact fun role => mem_rolesWith_iff
  case once => exact nodup_eraseDups _
  case ordered => exact (sorted_eraseDups _).imp grantedEarlier_of_idxOf_lt

end ProfileDecl

/-- Permissions that grant the same: they change places, one is split into two that share out its
roles, or one is given another time. All this may be undone, and done any number of times. -/
inductive Regranted : List Permission → List Permission → Prop where
  | reordered {permissions others : List Permission} (same : permissions.Perm others) :
      Regranted permissions others
  | split {before after : List Permission} {roles first second : List String} {access : Access}
      (shared : ∀ role, role ∈ roles ↔ role ∈ first ∨ role ∈ second) :
      Regranted (before ++ ⟨roles, access⟩ :: after)
        (before ++ ⟨first, access⟩ :: ⟨second, access⟩ :: after)
  | repeated {before after : List Permission} {permission : Permission}
      (given : permission ∈ before ++ after) :
      Regranted (before ++ after) (before ++ permission :: after)
  | symm {permissions others : List Permission} (same : Regranted permissions others) :
      Regranted others permissions
  | trans {permissions between others : List Permission} (first : Regranted permissions between)
      (second : Regranted between others) : Regranted permissions others

theorem Regranted.granted_iff (regranted : Regranted permissions others) :
    Granted permissions access role ↔ Granted others access role := by
  induction regranted with
  | reordered same => simp only [Granted, same.mem_iff]
  | split shared =>
    rw [granted_append_iff, granted_append_iff, granted_cons_iff, granted_cons_iff, granted_cons_iff]
    refine or_congr_right ?_
    simp only [Permission.Covers, shared, and_or_left, or_assoc]
  | @repeated before after permission given =>
    have twice : permission.Covers access ∧ role ∈ permission.roles →
        Granted (before ++ after) access role :=
      fun granted => ⟨permission, given, granted⟩
    rw [granted_append_iff] at twice
    rw [granted_append_iff, granted_append_iff, granted_cons_iff, or_left_comm,
      or_iff_right_of_imp twice]
  | symm _ ih => exact ih.symm
  | trans _ _ left right => exact left.trans right

namespace ProfileDecl

/-- A profile lists the roles that have an access, each where it is granted the access first. Whoever
may write may read, and how the permissions are laid out does not matter for which roles there are. -/
theorem roles_listed_exactly (profile : ProfileDecl) :
    (∀ access, ListsRoles profile.permissions access (profile.rolesWith access)) ∧
    (∀ role ∈ profile.rolesWith .readWrite, role ∈ profile.rolesWith .read) ∧
    ∀ other : ProfileDecl, Regranted profile.permissions other.permissions →
      ∀ access role, role ∈ profile.rolesWith access ↔ role ∈ other.rolesWith access := by
  refine ⟨profile.listsRoles_rolesWith, fun role writes => ?_, fun other regranted access role => ?_⟩
  · obtain ⟨permission, member, -, listed⟩ := mem_rolesWith_iff.mp writes
    exact mem_rolesWith_iff.mpr ⟨permission, member, .inl rfl, listed⟩
  · rw [mem_rolesWith_iff, mem_rolesWith_iff, regranted.granted_iff]

namespace Accounting

/-- Accountants may write, viewers may not, and administrators are listed among both. -/
def profile : ProfileDecl where
  permissions := [⟨["accounting", "admin"], .readWrite⟩, ⟨["viewer", "admin"], .read⟩]

/-- The same by other permissions, one of them given twice. -/
def scattered : ProfileDecl where
  permissions := [⟨["viewer"], .read⟩, ⟨["admin"], .read⟩, ⟨["accounting", "admin"], .readWrite⟩,
    ⟨["viewer"], .read⟩]

theorem scattered_readers : Regranted profile.permissions scattered.permissions ∧
    profile.rolesWith .read = ["accounting", "admin", "viewer"] ∧
    scattered.rolesWith .read = ["viewer", "admin", "accounting"] ∧
    ∀ role, role ∈ profile.rolesWith .readWrite ↔ role ∈ scattered.rolesWith .readWrite := by
  have turned : Regranted profile.permissions
      [⟨["viewer", "admin"], .read⟩, ⟨["accounting", "admin"], .readWrite⟩] :=
    .reordered (.swap ..)
  have divided : Regranted
      [⟨["viewer", "admin"], .read⟩, ⟨["accounting", "admin"], .readWrite⟩]
      [⟨["viewer"], .read⟩, ⟨["admin"], .read⟩, ⟨["accounting", "admin"], .readWrite⟩] :=
    @Regranted.split [] [⟨["accounting", "admin"], .readWrite⟩] ["viewer", "admin"] ["viewer"]
      ["admin"] .read fun role => by simp
  have again : Regranted
      [⟨["viewer"], .read⟩, ⟨["admin"], .read⟩, ⟨["accounting", "admin"], .readWrite⟩]
      scattered.permissions :=
    @Regranted.repeated [⟨["viewer"], .read⟩, ⟨["admin"], .read⟩,
      ⟨["accounting", "admin"], .readWrite⟩] [] ⟨["viewer"], .read⟩ (by decide)
  have regranted := (turned.trans divided).trans again
  exact ⟨regranted, by decide, by decide,
    (roles_listed_exactly profile).2.2 scattered regranted .readWrite⟩

end Accounting
end ProfileDecl
end TypeGraph
