import Mathlib.Data.List.Perm.Basic

/-!
# Lists of concurrent tasks

A scheduler keeps its tasks in a list and replaces one of them at each step.
Lemmas for what such a replacement leaves alone.
-/

namespace CatalystSvm.Library.TaskLists

set_option autoImplicit false

variable {Task Value : Type*} {tasks : List Task} {index : Nat} {task replacement : Task}

theorem map_set_same (project : Task → Value) (found : tasks[index]? = some task)
    (same : project replacement = project task) :
    (tasks.set index replacement).map project = tasks.map project := by
  rcases List.getElem?_eq_some_iff.mp found with ⟨bound, rfl⟩
  have inside : index < (tasks.map project).length := by simpa using bound
  have value : project replacement = (tasks.map project)[index] := by
    rw [List.getElem_map]
    exact same
  rw [List.map_set, value, List.set_getElem_self]

theorem set_found (found : tasks[index]? = some task) : tasks.set index task = tasks := by
  rcases List.getElem?_eq_some_iff.mp found with ⟨bound, rfl⟩
  exact List.set_getElem_self bound

theorem replacement_mem (found : tasks[index]? = some task) :
    replacement ∈ tasks.set index replacement := by
  rcases List.getElem?_eq_some_iff.mp found with ⟨bound, _⟩
  exact List.mem_set bound replacement

/-- Up to order, the replacement stands where the task stood. -/
theorem set_perm (replacement : Task) (found : tasks[index]? = some task) :
    ∃ others, tasks.Perm (task :: others) ∧
      (tasks.set index replacement).Perm (replacement :: others) := by
  rcases List.getElem?_eq_some_iff.mp found with ⟨bound, rfl⟩
  exact ⟨tasks.eraseIdx index, (List.getElem_cons_eraseIdx_perm bound).symm,
    List.set_perm_cons_eraseIdx bound replacement⟩

/-- A replacement that newly satisfies a test adds itself to the selected tasks. -/
theorem filter_set_perm_of_joins (test : Task → Bool) (found : tasks[index]? = some task)
    (before : test task = false) (after : test replacement = true) :
    ((tasks.set index replacement).filter test).Perm (replacement :: tasks.filter test) := by
  rcases set_perm replacement found with ⟨others, old, new⟩
  have selectedOld := old.filter test
  have selectedNew := new.filter test
  rw [List.filter_cons_of_neg (by simp [before])] at selectedOld
  rw [List.filter_cons_of_pos after] at selectedNew
  exact selectedNew.trans (selectedOld.symm.cons replacement)

theorem filter_set_perm_of_outside (test : Task → Bool) (found : tasks[index]? = some task)
    (before : test task = false) (after : test replacement = false) :
    ((tasks.set index replacement).filter test).Perm (tasks.filter test) := by
  rcases set_perm replacement found with ⟨others, old, new⟩
  have selectedOld := old.filter test
  have selectedNew := new.filter test
  rw [List.filter_cons_of_neg (by simp [before])] at selectedOld
  rw [List.filter_cons_of_neg (by simp [after])] at selectedNew
  exact selectedNew.trans selectedOld.symm

end CatalystSvm.Library.TaskLists
