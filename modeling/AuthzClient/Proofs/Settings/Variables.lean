import AuthzClient.Proofs.Settings.Values

/-!
Settings from variables. What a variable says is found at its path unless a later one speaks of the same place, of what it
is part of, or of a part of it.
-/

namespace AuthzClient.Settings.Environment

open Json Text

/-- What a variable adds to the settings of those before it. -/
def add (found : Json) (pair : String × String) : Json :=
  match path? pair.1 with
  | some path => overlay found (nest path (valueOf pair.2))
  | none => found

theorem settings_eq (pairs : List (String × String)) : settings pairs = pairs.foldl add (.object []) := rfl

section Adding

variable {found : Json} {path : List String} {name : String} {pairs : List (String × String)}

theorem add_eq (named : path? name = some path) (found : Json) (value : String) :
    add found (name, value) = overlay found (nest path (valueOf value)) := by
  rw [add, named]

theorem ordered_add (ordered : found.Ordered) (other : String × String) : (add found other).Ordered := by
  unfold add
  split
  · exact ordered_overlay ordered (ordered_nest _ (ordered_valueOf _).1)
  · exact ordered

theorem ordered_foldl_add (ordered : found.Ordered) (pairs : List (String × String)) :
    (pairs.foldl add found).Ordered := by
  induction pairs generalizing found with
  | nil => exact ordered
  | cons other rest ih => exact ih (ordered_add ordered other)

/-- None of some variables speaks of a place, of what it is part of, or of a part of it. -/
def Spares (pairs : List (String × String)) (path : List String) : Prop :=
  ∀ other ∈ pairs, ∀ place, path? other.1 = some place → Apart place path

/-- Variables that spare a place leave what is found there. -/
theorem at?_foldl_add (spares : Spares pairs path) (found : Json) : (pairs.foldl add found).at? path = found.at? path := by
  induction pairs generalizing found with
  | nil => rfl
  | cons other rest ih =>
    rw [List.foldl_cons, ih fun another inside => spares another (List.mem_cons_of_mem _ inside), add]
    split
    · rename_i place named
      exact at?_overlay_of_silent (ordered_nest _ (ordered_valueOf _).1)
        (silent_nest (spares other List.mem_cons_self place named) _)
    · rfl

theorem silent_foldl_add (spares : Spares pairs path) (silent : Silent path found) :
    Silent path (pairs.foldl add found) := by
  induction pairs generalizing found with
  | nil => exact silent
  | cons other rest ih =>
    refine ih (fun another inside => spares another (List.mem_cons_of_mem _ inside)) ?_
    rw [add]
    split
    · rename_i place named
      exact silent_overlay (ordered_nest _ (ordered_valueOf _).1) silent
        (silent_nest (spares other List.mem_cons_self place named) _)
    · exact silent

theorem beside_foldl_add {s : String} {one two : Json} (spares : Spares pairs path)
    (beside : Beside s path (some one) two) :
    Beside s path (some (pairs.foldl add one)) (pairs.foldl add two) := by
  induction pairs generalizing one two with
  | nil => exact beside
  | cons other rest ih =>
    refine ih (fun another inside => spares another (List.mem_cons_of_mem _ inside)) ?_
    rw [add, add]
    split
    · rename_i place named
      exact beside.under (ordered_nest _ (ordered_valueOf _).1)
        (silent_nest (spares other List.mem_cons_self place named) _)
    · exact beside

end Adding

section Setting

variable {path : List String} {name : String} {before behind : List (String × String)}

theorem ordered_settings (pairs : List (String × String)) : (settings pairs).Ordered :=
  ordered_foldl_add (.object .nil nofun) pairs

/-- Settings of variables say nothing of a place that all of them spare. -/
theorem silent_settings {head : String} {pairs : List (String × String)} (spares : Spares pairs (head :: path)) :
    Silent (head :: path) (settings pairs) := silent_foldl_add spares nofun

/-- What a variable says is found at its path, laid over something at most, if the later ones spare that. -/
theorem at?_settings (before : List (String × String)) (named : path? name = some path) (spares : Spares behind path)
    (value : String) :
    (settings (before ++ (name, value) :: behind)).at? path = some (valueOf value) ∨
      ∃ under, (settings (before ++ (name, value) :: behind)).at? path = some (overlay under (valueOf value)) := by
  rw [settings_eq, List.foldl_append, List.foldl_cons, at?_foldl_add spares, add_eq named]
  exact at?_overlay_of_some _ (ordered_nest _ (ordered_valueOf value).1) (at?_nest path _)

/-- Settings of variables with one text or another are the same but for it. -/
theorem beside_settings (named : path? name = some path) (spares : Spares behind path) {one two s t : String}
    (first : valueOf one = .text s) (second : valueOf two = .text t) :
    Beside t path (some (settings (before ++ (name, one) :: behind))) (settings (before ++ (name, two) :: behind)) := by
  rw [settings_eq, settings_eq, List.foldl_append, List.foldl_append, List.foldl_cons, List.foldl_cons, add_eq named,
    add_eq named, first, second]
  exact beside_foldl_add spares (beside_change path _)

/-- A variable more with a text adds nothing but that. -/
theorem beside_settings_insert (named : path? name = some path) (spares : Spares behind path) {value s : String}
    (reads : valueOf value = .text s) :
    Beside s path (some (settings (before ++ behind))) (settings (before ++ (name, value) :: behind)) := by
  rw [settings_eq, settings_eq, List.foldl_append, List.foldl_append, List.foldl_cons, add_eq named, reads]
  exact beside_foldl_add spares (beside_overlay path _)

end Setting

end AuthzClient.Settings.Environment
