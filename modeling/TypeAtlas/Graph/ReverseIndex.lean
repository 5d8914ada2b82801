import TypeAtlas.Graph.Bucket
import TypeAtlas.Graph.Resolution

/-!
# Accesses by what they land on

The reverse index lists, for each member and for each type, the accesses that land on it.
-/

set_option autoImplicit false

namespace TypeAtlas

/-- The accesses that land on each member, and on the members of each type. -/
structure ReverseIndex where
  byMember : Array (List AccessId)
  byType : Array (List AccessId)
  deriving Repr

namespace ReverseIndex

/-- The accesses that land on a member of the graph, each with that member. -/
def landings (g : Graph) : List (MemberId × AccessId) :=
  let resolved := g.targets.map g.resolveTarget
  g.accesses.toList.filterMap fun a =>
    (resolved[a.target]?.bind id).map fun member => (member, a.id)

/-- The reverse index of a graph. -/
def ofGraph (g : Graph) : ReverseIndex :=
  let landings := landings g
  { byMember := distribute g.members.size landings
    byType := distribute g.types.size
      (landings.filterMap fun (member, access) =>
        (g.declaringType? member).map fun owner => (owner, access)) }

/-- The accesses that land on a member. -/
def accessesToMember (index : ReverseIndex) (id : MemberId) : List AccessId :=
  index.byMember[id]?.getD []

/-- The accesses that land on a member that a type declares. -/
def accessesToType (index : ReverseIndex) (id : TypeId) : List AccessId :=
  index.byType[id]?.getD []

end ReverseIndex

end TypeAtlas
