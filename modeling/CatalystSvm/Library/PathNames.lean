import Mathlib.Data.List.Basic

/-!
# File names with path parts

A name is followed from a directory, component by component: empty components and
`.` stay, `..` goes up. Nothing on the way is a link. Two different names can so lead
to one file; names without a separator cannot.
-/

namespace CatalystSvm.Library.PathNames

set_option autoImplicit false

abbrev Path := List String

def enter (path : Path) (component : String) : Path :=
  if component = "" ∨ component = "." then path
  else if component = ".." then path.dropLast
  else path ++ [component]

def components (name : String) : List String := (name.toList.splitOn '/').map String.ofList

/-- An absolute name starts at the root. -/
def follow (directory : Path) (name : String) : Path :=
  (components name).foldl enter (if name.toList.head? = some '/' then [] else directory)

def Plain (name : String) : Prop := '/' ∉ name.toList

instance plainDecidable (name : String) : Decidable (Plain name) :=
  inferInstanceAs (Decidable ('/' ∉ name.toList))

theorem enter_long {component : String} (long : 3 ≤ component.length) (path : Path) :
    enter path component = path ++ [component] := by
  have other (short : String) (few : short.length < 3) : component ≠ short := by
    intro same
    rw [same] at long
    omega
  rw [enter, if_neg (not_or.mpr ⟨other "" (by decide), other "." (by decide)⟩),
    if_neg (other ".." (by decide))]

theorem plain_append {first second : String} (left : Plain first) (right : Plain second) :
    Plain (first ++ second) := by
  rw [Plain, String.toList_append, List.mem_append]
  exact not_or.mpr ⟨left, right⟩

theorem plain_components {name : String} (plain : Plain name) : components name = [name] := by
  rw [components, List.splitOn_eq_singleton plain, List.map_singleton, String.ofList_toList]

theorem components_slash (first second : List Char) :
    components (String.ofList (first ++ '/' :: second)) =
      components (String.ofList first) ++ components (String.ofList second) := by
  simp only [components, String.toList_ofList, List.splitOn_append_cons_self, List.map_append]

/-- What ends a name ends its last component. -/
theorem components_append (name : String) {ending : String} (plain : Plain ending) :
    ∃ inner last, components (name ++ ending) = inner ++ [last ++ ending] := by
  by_cases whole : Plain name
  · exact ⟨[], name, plain_components (plain_append whole plain)⟩
  · have slash : '/' ∈ name.toList.reverse := List.mem_reverse.mpr (not_not.mp whole)
    obtain ⟨back, front, split, free⟩ := List.eq_append_cons_of_mem slash
    have cut : (name ++ ending).toList =
        front.reverse ++ '/' :: (String.ofList back.reverse ++ ending).toList := by
      have forward := congrArg List.reverse split
      rw [List.reverse_reverse, List.reverse_append, List.reverse_cons] at forward
      rw [String.toList_append, forward, String.toList_append, String.toList_ofList,
        List.append_assoc, List.append_assoc]
      rfl
    have rest : Plain (String.ofList back.reverse ++ ending) := by
      apply plain_append _ plain
      rw [Plain, String.toList_ofList, List.mem_reverse]
      exact free
    refine ⟨components (String.ofList front.reverse), String.ofList back.reverse, ?_⟩
    rw [← String.ofList_toList (s := name ++ ending), cut, components_slash,
      String.ofList_toList, plain_components rest]

theorem follow_plain {name : String} (plain : Plain name) (long : 3 ≤ name.length)
    (directory : Path) : follow directory name = directory ++ [name] := by
  have relative : name.toList.head? ≠ some '/' := fun first =>
    plain (List.mem_of_mem_head? first)
  rw [follow, if_neg relative, plain_components plain, List.foldl_cons, List.foldl_nil,
    enter_long long]

theorem follow_append (directory : Path) (name : String) {ending : String}
    (plain : Plain ending) (long : 3 ≤ ending.length) :
    ∃ inner last, follow directory (name ++ ending) = inner ++ [last ++ ending] := by
  obtain ⟨inner, last, split⟩ := components_append name plain
  have longer : 3 ≤ (last ++ ending).length := by
    rw [String.length_append]
    omega
  rw [follow, split, List.foldl_append, List.foldl_cons, List.foldl_nil, enter_long longer]
  exact ⟨_, last, rfl⟩

theorem follow_ends_apart (directory : Path) (left right : String) {ending other : String}
    (plain : Plain ending) (otherPlain : Plain other) (long : 3 ≤ ending.length)
    (lengths : ending.length = other.length) (different : ending ≠ other) :
    follow directory (left ++ ending) ≠ follow directory (right ++ other) := by
  obtain ⟨inner, last, leads⟩ := follow_append directory left plain long
  obtain ⟨otherInner, otherLast, otherLeads⟩ := follow_append directory right otherPlain
    (lengths ▸ long)
  intro same
  rw [leads, otherLeads] at same
  have names := (List.append_inj_right' same rfl)
  rw [List.cons.injEq, ← String.toList_inj, String.toList_append, String.toList_append] at names
  apply different
  apply String.toList_inj.mp
  apply List.append_inj_right' names.1
  rw [String.length_toList, String.length_toList, lengths]

theorem follow_plain_injective {directory : Path} {left right ending : String}
    (leftPlain : Plain left) (rightPlain : Plain right) (plain : Plain ending)
    (long : 3 ≤ ending.length)
    (same : follow directory (left ++ ending) = follow directory (right ++ ending)) :
    left = right := by
  have longer (name : String) : 3 ≤ (name ++ ending).length := by
    rw [String.length_append]
    omega
  rw [follow_plain (plain_append leftPlain plain) (longer left),
    follow_plain (plain_append rightPlain plain) (longer right)] at same
  have names := List.append_cancel_left same
  rw [List.cons.injEq, ← String.toList_inj, String.toList_append, String.toList_append] at names
  exact String.toList_inj.mp (List.append_cancel_right names.1)

end CatalystSvm.Library.PathNames
