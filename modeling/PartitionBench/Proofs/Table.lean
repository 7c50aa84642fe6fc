import PartitionBench.Table

/-!
Contract: looking keys up in tables.

Owns:
- what is found in a table, entry by entry and in two tables side by side;
- the entries that every table has, as a list.

Does not own: the order in which the entries of a table are listed (`Table`).
-/

namespace PartitionBench.Table

variable {α : Type}

@[simp]
theorem find?_nil (key : String) : find? ([] : List (String × α)) key = none :=
  rfl

@[simp]
theorem find?_cons (entry : String × α) (rest : List (String × α)) (key : String) :
    find? (entry :: rest) key = if entry.1 = key then some entry.2 else find? rest key := by
  by_cases isKey : entry.1 = key <;> simp [find?, isKey]

/-- Of two tables side by side the first is asked first. -/
@[simp]
theorem find?_append (first second : List (String × α)) (key : String) :
    find? (first ++ second) key = (find? first key).or (find? second key) := by
  induction first with
  | nil => rfl
  | cons entry rest inductionHypothesis =>
      rw [List.cons_append, find?_cons, find?_cons, inductionHypothesis]
      split <;> rfl

theorem mem_of_find? {entries : List (String × α)} {key : String} {value : α}
    (found : find? entries key = some value) : (key, value) ∈ entries := by
  induction entries with
  | nil => cases found
  | cons entry rest inductionHypothesis =>
      rw [find?_cons] at found
      split at found
      next isKey =>
        cases found
        rw [← isKey]
        exact List.mem_cons_self
      next => exact List.mem_cons_of_mem _ (inductionHypothesis found)

theorem not_mem_of_find? {entries : List (String × α)} {key : String}
    (missing : find? entries key = none) (value : α) : (key, value) ∉ entries := by
  induction entries with
  | nil => exact List.not_mem_nil
  | cons entry rest inductionHypothesis =>
      rw [find?_cons] at missing
      split at missing
      next => cases missing
      next notKey =>
        intro member
        rcases List.mem_cons.mp member with isFirst | later
        · exact notKey (congrArg Prod.fst isFirst).symm
        · exact inductionHypothesis missing later

/-- The entries that every table has, with their texts. -/
def builtins : List (String × String) :=
  ("__proto__", "[object Object]") ::
    builtinNames.map fun entry => (entry.1, "function " ++ entry.2 ++ "() \x7b [native code] \x7d")

theorem mem_builtins {key text : String} (isBuiltin : builtinText? key = some text) :
    (key, text) ∈ builtins := by
  unfold builtinText? at isBuiltin
  split at isBuiltin
  next isBase =>
    cases isBuiltin
    rw [isBase]
    exact List.mem_cons_self
  next =>
    obtain ⟨name, found, rfl⟩ := Option.map_eq_some_iff.mp isBuiltin
    exact List.mem_cons_of_mem _ (List.mem_map.mpr ⟨(key, name), mem_of_find? found, rfl⟩)

end PartitionBench.Table
