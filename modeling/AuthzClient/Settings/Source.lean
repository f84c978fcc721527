import AuthzClient.Json.Value

/-!
Settings before they are read: values as in JSON, laid over one another source by source.
-/

namespace AuthzClient.Settings

mutual

/-- One value laid over another: objects are merged member by member, any other value replaces what was there. -/
def overlay (lower upper : Json) : Json :=
  match lower, upper with
  | .object base, .object members => .object (overlayMembers base members)
  | _, upper => upper

/-- Members laid over members. -/
def overlayMembers (base : Entries Json) : List (String × Json) → Entries Json
  | [] => base
  | (name, value) :: rest =>
    let merged := match Entries.get? name base with
      | some under => overlay under value
      | none => value
    overlayMembers (Entries.put name merged base) rest

end

def nest : List String → Json → Json
  | [], value => value
  | name :: names, value => .object [(name, nest names value)]

end AuthzClient.Settings
