import ClosureTemplate.Query.Path

namespace ClosureTemplate.Query.Join

def keepCurrent : Join := fun _ current _ => current

def keepSaved : Join := fun _ _ saved => saved

def union : Join := fun _ current saved => current.union saved

def intersect : Join := fun _ current saved => current.filter (· ∈ saved)

def currentWithoutSaved : Join := fun _ current saved => current.without saved

def savedWithoutCurrent : Join := fun _ current saved => saved.without current

def sameName : Join := fun tree current saved =>
  saved.filter fun node => current.toList.any fun other => tree.name? other = tree.name? node

def nothing : Join := fun _ _ _ => ∅

/-- The joins that go by a label; other labels stand for no nodes. -/
def ofLabel : String → Join
  | "current" => keepCurrent
  | "popped" => keepSaved
  | "union" => union
  | "intersect" => intersect
  | "current-popped" => currentWithoutSaved
  | "popped-current" => savedWithoutCurrent
  | "by-name" => sameName
  | _ => nothing

end ClosureTemplate.Query.Join
