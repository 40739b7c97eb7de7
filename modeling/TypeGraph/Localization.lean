import TypeGraph.Declaration

/-! Looking up labels. The caller lists languages from the most to the least wanted, and each
property is taken from the first entry that has it. -/
namespace TypeGraph

/-- The label, plural and hint of a type. -/
structure TypeText where
  label : Option String
  labelPlural : Option String
  hint : Option String
  deriving DecidableEq, Repr

namespace Localization

/-- Every language of the bundles, once, in the order of its first bundle. -/
def languages (bundles : List Bundle) : List String := (bundles.map (·.language)).eraseDups

/-- What the bundles say about a type, most wanted first. -/
def entries (bundles : List Bundle) (type : String) (order : List String) : List TypeLabels :=
  order.flatMap fun language =>
    (bundles.filter (·.language == language)).filterMap (·.types.get? type)

def typeText (bundles : List Bundle) (type : String) (order : List String) : TypeText :=
  let found := entries bundles type order
  ⟨found.findSome? (·.label), found.findSome? (·.labelPlural), found.findSome? (·.hint)⟩

/-- The first label and the first hint, wherever each comes from. -/
def combine (found : List Labels) : Labels :=
  ⟨found.findSome? (·.label), found.findSome? (·.hint)⟩

def fieldLabels (bundles : List Bundle) (type field : String) (order : List String) : Labels :=
  combine ((entries bundles type order).filterMap (·.fields.get? field))

def valueLabels (bundles : List Bundle) (enum value : String) (order : List String) : Labels :=
  combine ((entries bundles enum order).filterMap (·.values.get? value))

end Localization
end TypeGraph
