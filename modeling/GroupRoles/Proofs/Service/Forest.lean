import GroupRoles.Service.Directory

/-!
# Searches through groups

The service answers a search for groups with trees of groups. `GroupTree.listedAll` lists all groups
of such trees, each before those below it; a search for a name finds the first group of the name in
this list (`findFirst?_eq_find?`).
-/

namespace GroupRoles.Service.GroupTree

mutual

/-- The groups of a tree, the group itself before those below it. -/
def listed : GroupTree → List Group
  | node id own subgroups => ⟨id, own⟩ :: listedAll subgroups

/-- The groups of trees, from left to right. -/
def listedAll : List GroupTree → List Group
  | [] => []
  | tree :: rest => listed tree ++ listedAll rest

end

mutual

theorem find?_eq_find? (name : String) :
    (tree : GroupTree) → find? name tree = (listed tree).find? (·.name = name)
  | node id own subgroups => by
    rw [find?, listed, List.find?_cons]
    by_cases hname : own = name
    · rw [if_pos hname, decide_eq_true hname]
    · rw [if_neg hname, decide_eq_false hname]
      exact findFirst?_eq_find? name subgroups

/-- A search through trees finds the first group of the name among all their groups. -/
theorem findFirst?_eq_find? (name : String) :
    (trees : List GroupTree) → findFirst? name trees = (listedAll trees).find? (·.name = name)
  | [] => rfl
  | tree :: rest => by
    rw [findFirst?, listedAll, List.find?_append, find?_eq_find? name tree,
      findFirst?_eq_find? name rest]
    cases (listed tree).find? (·.name = name) <;> rfl

end

end GroupRoles.Service.GroupTree
