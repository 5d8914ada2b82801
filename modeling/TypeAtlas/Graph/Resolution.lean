import TypeAtlas.Graph.Query

/-!
# Which member an access denotes

A target states an owner; the member it denotes may be declared by a type above the owner.

* A field is looked for in the owner and its superclasses, or, if the owner is an interface, in the
  owner and its interfaces.
* A constructor is looked for in the owner alone.
* A method is looked for in the owner and its superclasses, then in the interfaces. An interface
  looks in itself and its interfaces before it looks in the root.

When several interfaces declare a method, those declarations that another one overrides are
dropped, and the first of the others is taken.
-/

set_option autoImplicit false

namespace TypeAtlas.Graph

variable (g : Graph)

/-- Whether a type is an interface. -/
def isInterfaceType (id : TypeId) : Bool :=
  match g.types[id]? with
  | some node => node.isInterface
  | none => false

/-- Of members that fit a target, the first with its descriptor, or else the first. -/
def preferExact (target : AccessTarget) (fitting : List MemberNode) : Option MemberId :=
  ((fitting.find? fun m => m.descriptor == target.descriptor).or fitting.head?).map (·.id)

/-- The field of a type that a target denotes. -/
def findField (target : AccessTarget) (type : TypeId) : Option MemberId :=
  preferExact target ((g.fields type).filter fun m => m.name == target.name)

/-- Whether a member is of a kind, and has the name and the parameters of a target. -/
def fits (kind : MemberKind) (target : AccessTarget) (m : MemberNode) : Bool :=
  m.kind == kind && m.name == target.name && m.parameters == target.parameters

/-- The code unit of a type that a target denotes. A bridge method, which agrees in parameters with
the method that it stands in for, does not hide it: the descriptor decides. -/
def findCodeUnit (kind : MemberKind) (target : AccessTarget) (type : TypeId) : Option MemberId :=
  preferExact target ((g.membersOf type).filter (fits kind target))

/-- The interfaces in which a method of an owner is looked for, breadth first. -/
def interfaceSearchOrder (owner : TypeId) : List TypeId :=
  Walk.breadthFirst g.typeCount g.interfaces (fun _ => false) [owner] (g.startInterfaces owner)

/-- The type that declares a member. -/
def declaringType? (member : MemberId) : Option TypeId := g.members[member]?.map MemberNode.owner

/-- Whether a member is declared by a type above the type that declares another one. -/
def isOverriddenBy (member other : MemberId) : Bool :=
  match g.declaringType? member, g.declaringType? other with
  | some declaring, some otherOwner =>
    otherOwner != declaring && (g.allSupertypes otherOwner).contains declaring
  | _, _ => false

/-- The first candidate that no other one overrides. -/
def mostSpecific (candidates : List MemberId) : Option MemberId :=
  candidates.find? fun member => !candidates.any (g.isOverriddenBy member)

/-- The methods that fit a target in the interfaces of an owner, in the order of the search. -/
def interfaceCandidates (owner : TypeId) (target : AccessTarget) : List MemberId :=
  (g.interfaceSearchOrder owner).filterMap (g.findCodeUnit .method target)

/-- The method that a target denotes among those of the interfaces of an owner. -/
def resolveInInterfaces (owner : TypeId) (target : AccessTarget) : Option MemberId :=
  g.mostSpecific (g.interfaceCandidates owner target)

/-- The method that a target denotes among those of an owner and its superclasses. -/
def resolveInClasses (owner : TypeId) (target : AccessTarget) : Option MemberId :=
  (owner :: g.superClasses owner).findSome? (g.findCodeUnit .method target)

/-- The field that a target denotes. -/
def resolveField (target : AccessTarget) : Option MemberId :=
  let above :=
    if g.isInterfaceType target.owner then g.allInterfaces target.owner
    else g.superClasses target.owner
  (target.owner :: above).findSome? (g.findField target)

/-- The constructor that a target denotes. -/
def resolveConstructor (target : AccessTarget) : Option MemberId :=
  g.findCodeUnit .constructor target target.owner

/-- The method that a target denotes. -/
def resolveMethod (target : AccessTarget) : Option MemberId :=
  let owner := target.owner
  if g.isInterfaceType owner then
    ((g.findCodeUnit .method target owner).or (g.resolveInInterfaces owner target)).or
      (g.resolveInClasses owner target)
  else (g.resolveInClasses owner target).or (g.resolveInInterfaces owner target)

/-- The member that a target denotes. -/
def resolveTarget (target : AccessTarget) : Option MemberId :=
  match target.kind with
  | .field => g.resolveField target
  | .constructor => g.resolveConstructor target
  | .method => g.resolveMethod target

/-- The member that a target denotes, if it is part of the graph. -/
def resolve (id : TargetId) : Option MemberId := g.targets[id]?.bind g.resolveTarget

/-- The member on which an access lands, if it is part of the graph. -/
def resolvedTarget (id : AccessId) : Option MemberId :=
  g.accesses[id]?.bind fun a => g.resolve a.target

end TypeAtlas.Graph
