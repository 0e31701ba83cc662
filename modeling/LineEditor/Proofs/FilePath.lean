import LineEditor.FilePath

/-!
# Normal spellings

Every component of a path is a proper one: it is neither empty nor a single
point and holds no slash (`FilePath.IsComponent`).  Proper components that are
joined by slashes are found again behind any leading slashes
(`FilePath.components_joined`), so the normal spelling of a path has the same
components and is its own normal spelling (`FilePath.normal_normal`).
-/

set_option autoImplicit false

namespace LineEditor

namespace Text

/-- Cutting a text at a separator is splitting the list of its characters there. -/
theorem splitAt_eq_splitOn (separator : Char) (chars : List Char) :
    splitAt separator chars = chars.splitOn separator := by
  induction chars with
  | nil => rfl
  | cons char rest ih =>
      rw [splitAt, ih, List.splitOn_cons_eq_if_modifyHead]
      by_cases same : char = separator
      · simp [same]
      · rw [if_neg same, if_neg (by simpa using same)]
        cases parts : rest.splitOn separator with
        | nil => exact absurd parts (List.splitOn_ne_nil separator rest)
        | cons part parts => rfl

/-- No part holds the separator. -/
theorem not_mem_of_mem_splitAt (separator : Char) (chars : List Char) :
    ∀ part ∈ splitAt separator chars, separator ∉ part := by
  induction chars with
  | nil => simp [splitAt]
  | cons char rest ih =>
      rw [splitAt_eq_splitOn, List.splitOn_cons_eq_if_modifyHead, ← splitAt_eq_splitOn]
      intro part member
      by_cases same : char = separator
      · rw [if_pos (by simpa using same), List.mem_cons] at member
        rcases member with rfl | other
        · simp
        · exact ih part other
      · rw [if_neg (by simpa using same)] at member
        cases parts : splitAt separator rest with
        | nil =>
            rw [parts] at member
            cases member
        | cons head others =>
            rw [parts, List.modifyHead_cons, List.mem_cons] at member
            rcases member with rfl | other
            · have := ih head (by simp [parts])
              simp [this, Ne.symm same]
            · exact ih part (by simp [parts, other])

end Text

namespace FilePath

/-- A text that can be a component of a path. -/
structure IsComponent (part : String) : Prop where
  present : part ≠ ""
  moves : part ≠ "."
  unbroken : '/' ∉ part.toList

theorem isComponent_of_mem_components {path part : String} (member : part ∈ components path) :
    IsComponent part := by
  rw [components, List.mem_filter, List.mem_map] at member
  obtain ⟨⟨chars, cut, rfl⟩, kept⟩ := member
  rw [Bool.and_eq_true, bne_iff_ne, bne_iff_ne] at kept
  exact ⟨kept.1, kept.2, by
    rw [String.toList_ofList]
    exact Text.not_mem_of_mem_splitAt '/' path.toList chars cut⟩

/-- A leading slash adds no component. -/
theorem components_slash (path : String) : components ("/" ++ path) = components path := by
  have chars : ("/" ++ path).toList = '/' :: path.toList := by simp
  rw [components, components, chars, Text.splitAt, if_pos rfl, List.map_cons,
    List.filter_cons_of_neg (by decide)]

/-- Joined components are found again. -/
theorem components_intercalate {parts : List String} (proper : ∀ part ∈ parts, IsComponent part) :
    components ("/".intercalate parts) = parts := by
  rcases parts with - | ⟨part, others⟩
  · decide
  have split : Text.splitAt '/' ("/".intercalate (part :: others)).toList =
      (part :: others).map String.toList := by
    rw [Text.splitAt_eq_splitOn, String.toList_intercalate]
    refine List.splitOn_intercalate '/' ?_ (by simp)
    intro chars member
    obtain ⟨other, here, rfl⟩ := List.mem_map.mp member
    exact (proper other here).unbroken
  rw [components, split, List.map_map, List.map_congr_left (g := id) (by simp), List.map_id,
    List.filter_eq_self]
  intro other member
  simp [(proper other member).present, (proper other member).moves]

/-- The leading slashes of a normal spelling are none, one or two. -/
theorem root_cases (path : String) : root path = "" ∨ root path = "/" ∨ root path = "//" := by
  rw [root]
  split <;> simp

theorem components_joined (path : String) {parts : List String}
    (proper : ∀ part ∈ parts, IsComponent part) :
    components (root path ++ "/".intercalate parts) = parts := by
  rcases root_cases path with none | one | two
  · rw [none, String.empty_append, components_intercalate proper]
  · rw [one, components_slash, components_intercalate proper]
  · have split : "//" = "/" ++ "/" := by decide
    rw [two, split, String.append_assoc, components_slash, components_slash,
      components_intercalate proper]

/-- Joined components begin with no slash. -/
theorem head?_intercalate {parts : List String} (proper : ∀ part ∈ parts, IsComponent part) :
    ("/".intercalate parts).toList.head? ≠ some '/' := by
  rcases parts with - | ⟨part, others⟩
  · decide
  have here := proper part List.mem_cons_self
  have start : ("/".intercalate (part :: others)).toList.head? = part.toList.head? := by
    cases others with
    | nil => simp
    | cons other rest =>
        have filled : part.toList ≠ [] := mt String.toList_eq_nil_iff.mp here.present
        obtain ⟨first, behind, chars⟩ := List.exists_cons_of_ne_nil filled
        simp [String.intercalate_cons_cons, chars]
  rw [start]
  intro slash
  exact here.unbroken (List.mem_of_mem_head? slash)

/-- Leading slashes are kept in front of what begins with none. -/
theorem root_joined (path : String) {text : String} (start : text.toList.head? ≠ some '/') :
    root (root path ++ text) = root path := by
  have kept : ∀ front ∈ ["", "/", "//"], root (front ++ text) = front := by
    cases chars : text.toList with
    | nil => simp [root, chars]
    | cons char rest =>
        rw [chars] at start
        have other : char ≠ '/' := by simpa using start
        simp [root, chars, other]
  refine kept (root path) ?_
  rcases root_cases path with none | one | two
  · simp [none]
  · simp [one]
  · simp [two]

/-- The normal spelling is joined from the components, unless nothing is left of the path. -/
theorem normal_cases (path : String) :
    normal path = "." ∧ components path = [] ∨
      normal path = root path ++ "/".intercalate (components path) := by
  have proper : ∀ part ∈ components path, IsComponent part := fun _ => isComponent_of_mem_components
  cases empty : (root path ++ "/".intercalate (components path)).isEmpty with
  | true =>
      refine .inl ⟨by simp [normal, empty], ?_⟩
      rw [String.isEmpty_iff] at empty
      rw [← components_joined path proper, empty]
      decide
  | false => exact .inr (by simp [normal, empty])

theorem normal_ne_empty (path : String) : normal path ≠ "" := by
  rw [normal]
  split
  · decide
  · rename_i filled
    exact fun none => filled (String.isEmpty_iff.mpr none)

theorem components_normal (path : String) : components (normal path) = components path := by
  rcases normal_cases path with ⟨point, none⟩ | joined
  · rw [point, none]
    decide
  · rw [joined, components_joined path fun _ => isComponent_of_mem_components]

/-- **A normal spelling is its own normal spelling.** -/
theorem normal_normal (path : String) : normal (normal path) = normal path := by
  rcases normal_cases path with ⟨point, -⟩ | joined
  · rw [point]
    decide
  · have kept : root (normal path) = root path := by
      rw [joined, root_joined path (head?_intercalate fun _ => isComponent_of_mem_components)]
    rw [normal, kept, components_normal]
    rfl

end FilePath

end LineEditor
