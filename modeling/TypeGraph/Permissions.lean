import TypeGraph.Declaration

/-! Who may do what under a permission profile. -/
namespace TypeGraph

/-- The profile of root entities that name none. -/
def defaultProfileName : String := "default"

/-- Whether the permission grants at least the access. -/
def Permission.grants (permission : Permission) (access : Access) : Bool :=
  !access.allowsWrite || permission.access.allowsWrite

/-- The roles with at least the access, each once, in the order in which the permissions first name
them. -/
def ProfileDecl.rolesWith (profile : ProfileDecl) (access : Access) : List String :=
  ((profile.permissions.filter (·.grants access)).flatMap (·.roles)).eraseDups

end TypeGraph
