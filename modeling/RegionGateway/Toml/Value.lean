/-!
# TOML values

What a TOML document says. Dates are checked when they are read, but their values are not kept: no
setting is a date. Of a number no more is kept than whether it has a value; a document may be read
although some number has none, as long as nobody asks for it.
-/

namespace RegionGateway

/-- A TOML value. The keys of a table are distinct. -/
inductive Toml where
  | str (s : String)
  | bool (b : Bool)
  | number (hasValue : Bool)
  | date
  | arr (items : List Toml)
  | table (members : List (String × Toml))

namespace Toml

mutual
/-- Whether every number in a value has a value. -/
def isSound : Toml → Bool
  | .number hasValue => hasValue
  | .arr items => areSound items
  | .table members => membersAreSound members
  | _ => true

/-- Whether every number in a list of values has a value. -/
def areSound : List Toml → Bool
  | [] => true
  | item :: rest => item.isSound && areSound rest

/-- Whether every number among members has a value. -/
def membersAreSound : List (String × Toml) → Bool
  | [] => true
  | (_, v) :: rest => v.isSound && membersAreSound rest
end

end Toml

end RegionGateway
