import GitGateway.Operation

/-!
# Counters

The gateway counts the busy notices it has delivered, by operation, and the
backend calls that failed, by code. An increment is a value of `Counter`; what a
run adds up to is the tally of its increments.
-/

namespace GitGateway

/-- One increment by one. -/
inductive Counter where
  /-- A busy notice was delivered. -/
  | busyNotice (operation : Operation)
  /-- A backend call failed; the label is the code, or says that there is none. -/
  | backendError (label : String)
  deriving DecidableEq, Repr

namespace Counter

/-- The name of the counter. -/
def name : Counter → String
  | .busyNotice _ => "git_overload_responses_total"
  | .backendError _ => "git_backend_errors_total"

/-- The name and the value of its label. -/
def label : Counter → String × String
  | .busyNotice operation => ("operation", operation.service)
  | .backendError code => ("code", code)

/-- The series that an increment belongs to. -/
def series (counter : Counter) : String :=
  counter.name ++ "\x7b" ++ counter.label.1 ++ "=" ++ counter.label.2 ++ "\x7d"

/-- How often each counter was incremented, in the order of their first increments. -/
def tally (increments : List Counter) : List (Counter × Nat) :=
  increments.eraseDups.map fun counter => (counter, increments.count counter)

/-- Totals after one more increment. -/
def add (totals : List (Counter × Nat)) (counter : Counter) : List (Counter × Nat) :=
  if totals.any fun entry => entry.1 == counter then
    totals.map fun (other, total) => (other, if other == counter then total + 1 else total)
  else totals ++ [(counter, 1)]

/-- Totals after any number of increments more. -/
def addAll (totals : List (Counter × Nat)) (increments : List Counter) : List (Counter × Nat) :=
  increments.foldl add totals

/-- A series that has been seen gets no row of its own any more. -/
theorem eraseDups_concat_of_mem {increments : List Counter} {counter : Counter}
    (h : counter ∈ increments) : (increments ++ [counter]).eraseDups = increments.eraseDups := by
  simp [List.eraseDups_append, List.removeAll, h]

/-- A new series gets the last row. -/
theorem eraseDups_concat_of_not_mem {increments : List Counter} {counter : Counter}
    (h : counter ∉ increments) :
    (increments ++ [counter]).eraseDups = increments.eraseDups ++ [counter] := by
  simp [List.eraseDups_append, List.removeAll, h, List.eraseDups_cons]

/-- Adding an increment to a tally is the tally with that increment at its end, so
totals can be kept up to date without the increments behind them. -/
theorem tally_concat (increments : List Counter) (counter : Counter) :
    tally (increments ++ [counter]) = add (tally increments) counter := by
  by_cases h : counter ∈ increments
  · have present : (tally increments).any (fun entry => entry.1 == counter) = true := by
      simp only [tally, List.any_map, List.any_eq_true]
      exact ⟨counter, List.mem_eraseDups.2 h, by simp⟩
    simp only [add, present, if_true]
    simp only [tally, eraseDups_concat_of_mem h, List.map_map, List.map_inj_left,
      Function.comp_apply]
    intro other _
    by_cases equal : other = counter <;> simp [equal, List.count_append, List.count_singleton]
    exact fun other' => (equal other'.symm).elim
  · have absent : (tally increments).any (fun entry => entry.1 == counter) = false := by
      simp only [tally, List.any_map, List.any_eq_false]
      intro other member equal
      simp at equal
      exact h (equal ▸ List.mem_eraseDups.1 member)
    have others : ∀ other ∈ increments.eraseDups,
        (other, (increments ++ [counter]).count other) = (other, increments.count other) := by
      intro other member
      have : counter ≠ other := fun equal => h (equal ▸ List.mem_eraseDups.1 member)
      simp [List.count_append, this]
    have never : increments.count counter = 0 := List.count_eq_zero.2 h
    rw [add, absent, tally, eraseDups_concat_of_not_mem h, List.map_append,
      List.map_congr_left others]
    simp [tally, never]

end Counter

end GitGateway
