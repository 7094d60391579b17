/-!
# Members by name

Lists of values with names, in ascending order of the names, which are distinct.
-/

namespace MockHttp

/-- The members with one set, in the place that its name gives it. -/
def insertMember {ν : Type} (name : String) (value : ν) :
    List (String × ν) → List (String × ν)
  | [] => [(name, value)]
  | (n, v) :: rest =>
    if name < n then (name, value) :: (n, v) :: rest
    else if name = n then (name, value) :: rest
    else (n, v) :: insertMember name value rest

/-- The members that some pairs set one after the other; of several with one name the last
counts. -/
def sortMembers {ν : Type} (pairs : List (String × ν)) : List (String × ν) :=
  pairs.foldl (fun all (name, value) => insertMember name value all) []

end MockHttp
