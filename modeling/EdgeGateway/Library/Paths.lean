import Mathlib.Data.List.Infix

/-!
# Paths

Paths are texts with slashes between their components.
-/

namespace Paths

/-- The last component of a path, unless it names no file. -/
def fileName (path : List Char) : Option (List Char) :=
  match ((path.splitOn '/').filter fun part => part ≠ [] ∧ part ≠ ['.']).getLast? with
  | some ['.', '.'] => none
  | last => last

/-- A name without slashes is the last component of itself, unless it is made of dots. -/
theorem fileName_of_plain {name : List Char} (plain : '/' ∉ name) (nonempty : name ≠ [])
    (here : name ≠ ['.']) (above : name ≠ ['.', '.']) : fileName name = some name := by
  rw [fileName, List.splitOn_eq_singleton plain, List.filter_cons_of_pos (by simp [nonempty, here]),
    List.filter_nil, List.getLast?_singleton]
  split
  · rename_i same
    exact absurd (Option.some.inj same) above
  · rfl

/-- The path starts at the root. -/
def isAbsolute (path : List Char) : Bool :=
  path.head? == some '/'

/-- A relative path below a directory. -/
def join (directory path : List Char) : List Char :=
  if directory = [] ∨ directory.getLast? = some '/' then directory ++ path
  else directory ++ '/' :: path

/-- A path of a configuration that stands in a directory. -/
def resolve (directory path : List Char) : List Char :=
  if isAbsolute path then path else join directory path

/-! ## The paths above a path -/

/-- What stands before the slashes of a path, the longest first, where the first slash of the path
stands for the root; the path is given backwards. -/
def ancestors : List Char → List (List Char)
  | [] => []
  | character :: rest =>
      if character = '/' then
        if rest = [] then [['/']] else rest.reverse :: ancestors rest
      else
        ancestors rest

theorem mem_ancestors {reversed above : List Char} : above ∈ ancestors reversed ↔
    (above = ['/'] ∧ reversed.getLast? = some '/') ∨
      (above ≠ [] ∧ above ++ ['/'] <+: reversed.reverse) := by
  induction reversed with
  | nil => simp [ancestors]
  | cons character rest ih =>
      rw [ancestors, List.reverse_cons, List.prefix_concat_iff, List.append_singleton_inj]
      split_ifs with slash root
      · subst slash root
        have no_infix : ¬above ++ ['/'] <+: [] := by simp
        simp only [List.mem_singleton, List.getLast?_singleton, List.reverse_nil, no_infix]
        tauto
      · subst slash
        have nonempty : rest.reverse ≠ [] := by simpa using root
        rw [List.mem_cons, ih, List.getLast?_cons_of_ne_nil root]
        constructor
        · rintro (rfl | first | longer)
          · exact .inr ⟨nonempty, .inl ⟨rfl, rfl⟩⟩
          · exact .inl first
          · exact .inr ⟨longer.1, .inr longer.2⟩
        · rintro (first | ⟨_, ⟨rfl, _⟩ | longer⟩)
          · exact .inr (.inl first)
          · exact .inl rfl
          · exact .inr (.inr ⟨by assumption, longer⟩)
      · rw [ih]
        have other_end : ¬ '/' = character := Ne.symm slash
        by_cases root : rest = []
        · subst root
          simp [slash, other_end]
        · rw [List.getLast?_cons_of_ne_nil root]
          tauto

theorem length_le_of_mem_ancestors {reversed above : List Char}
    (member : above ∈ ancestors reversed) : above.length ≤ reversed.length := by
  rcases mem_ancestors.mp member with ⟨rfl, last⟩ | ⟨_, start⟩
  · cases reversed with
    | nil => cases last
    | cons character rest => simp
  · have shorter := start.length_le
    rw [List.length_append, List.length_reverse] at shorter
    exact (Nat.le_add_right _ _).trans shorter

/-- Later ancestors are no longer than earlier ones. -/
theorem ancestors_pairwise (reversed : List Char) :
    (ancestors reversed).Pairwise fun above further => further.length ≤ above.length := by
  induction reversed with
  | nil => exact .nil
  | cons character rest ih =>
      rw [ancestors]
      split_ifs with slash root
      · exact List.pairwise_singleton _ _
      · refine List.pairwise_cons.mpr ⟨fun further member => ?_, ih⟩
        rw [List.length_reverse]
        exact length_le_of_mem_ancestors member
      · exact ih

end Paths
