import Mathlib.Logic.Function.Basic

/-!
Contract: first-in first-out queues by key.

An empty queue has no entry. An item that is pushed is taken by one pop of its key, in order,
or still stands in the queue.

Owns the conservation law of any history of pushes and pops from any contents. Does not own
what a pop returns to its caller when there is nothing to take.
-/

namespace Gecit.Foundation

abbrev KeyedQueue (Key Item : Type*) := Key → Option (List Item)

namespace KeyedQueue

variable {Key Item : Type*} [DecidableEq Key]

/-- No entry is an empty queue. -/
def content (queue : KeyedQueue Key Item) (key : Key) : List Item := (queue key).getD []

/-- The entry for these items. -/
def stored : List Item → Option (List Item)
  | [] => none
  | item :: rest => some (item :: rest)

def push (queue : KeyedQueue Key Item) (key : Key) (item : Item) : KeyedQueue Key Item :=
  Function.update queue key (some (queue.content key ++ [item]))

def pop (queue : KeyedQueue Key Item) (key : Key) : KeyedQueue Key Item :=
  match queue.content key with
  | [] => queue
  | _ :: rest => Function.update queue key (stored rest)

inductive Op (Key Item : Type*) where
  | push (key : Key) (item : Item)
  | pop (key : Key)

def Op.key : Op Key Item → Key
  | .push key _ | .pop key => key

def apply (queue : KeyedQueue Key Item) : Op Key Item → KeyedQueue Key Item
  | .push key item => queue.push key item
  | .pop key => queue.pop key

def applyAll (queue : KeyedQueue Key Item) (ops : List (Op Key Item)) : KeyedQueue Key Item :=
  ops.foldl apply queue

/-- The items pushed for a key. -/
def given (key : Key) (ops : List (Op Key Item)) : List Item :=
  ops.flatMap fun
    | .push other item => if other = key then [item] else []
    | .pop _ => []

/-- The item that one operation takes for a key. -/
def takes (key : Key) (queue : KeyedQueue Key Item) : Op Key Item → List Item
  | .push _ _ => []
  | .pop other => if other = key then (queue.content key).take 1 else []

/-- The items taken for a key, from these contents on. -/
def taken (key : Key) : KeyedQueue Key Item → List (Op Key Item) → List Item
  | _, [] => []
  | queue, op :: ops => queue.takes key op ++ taken key (queue.apply op) ops

/-- No key is stored with an empty queue. -/
def NoEmpty (queue : KeyedQueue Key Item) : Prop := ∀ key, queue key ≠ some []

variable {queue : KeyedQueue Key Item}

/-! ### One operation -/

theorem stored_getD (items : List Item) : (stored items).getD [] = items := by
  cases items <;> rfl

theorem stored_ne (items : List Item) : stored items ≠ some [] := by
  cases items <;> simp [stored]

theorem content_push (key : Key) (item : Item) :
    (queue.push key item).content key = queue.content key ++ [item] := by
  rw [push, content, Function.update_self]
  rfl

theorem pop_of_empty {key : Key} (empty : queue.content key = []) : queue.pop key = queue := by
  rw [pop, empty]

theorem pop_of_cons {key : Key} {item : Item} {rest : List Item}
    (there : queue.content key = item :: rest) :
    queue.pop key = Function.update queue key (stored rest) := by
  rw [pop, there]

theorem content_pop (key : Key) : (queue.pop key).content key = (queue.content key).tail := by
  cases there : queue.content key with
  | nil => rw [pop_of_empty there, there, List.tail_nil]
  | cons item rest =>
      rw [pop_of_cons there, content, Function.update_self]
      exact stored_getD rest

/-- An operation leaves the other keys alone. -/
theorem apply_other (op : Op Key Item) {key : Key} (other : op.key ≠ key) :
    queue.apply op key = queue key := by
  cases op with
  | push pushed item => exact Function.update_of_ne (Ne.symm other) ..
  | pop popped =>
      show queue.pop popped key = queue key
      cases there : queue.content popped with
      | nil => rw [pop_of_empty there]
      | cons item rest =>
          rw [pop_of_cons there]
          exact Function.update_of_ne (Ne.symm other) ..

/-- What was there and what comes in is what goes out and what stays. -/
theorem content_apply (op : Op Key Item) (key : Key) :
    queue.content key ++ given key [op] = queue.takes key op ++ (queue.apply op).content key := by
  by_cases here : op.key = key
  · subst here
    cases op with
    | push pushed item =>
        have single : given pushed [Op.push pushed item] = [item] := by simp [given]
        show queue.content pushed ++ given pushed [.push pushed item] =
          [] ++ (queue.push pushed item).content pushed
        rw [single, content_push, List.nil_append]
    | pop popped =>
        have taken : queue.takes popped (.pop popped) = (queue.content popped).take 1 := if_pos rfl
        show queue.content popped ++ [] =
          queue.takes popped (.pop popped) ++ (queue.pop popped).content popped
        rw [taken, content_pop, List.append_nil]
        cases queue.content popped <;> rfl
  · have same : (queue.apply op).content key = queue.content key := by
      rw [content, apply_other op here, content]
    have nothing : given key [op] = [] ∧ queue.takes key op = [] := by
      cases op with
      | push pushed item =>
          have other : pushed ≠ key := here
          simp [given, takes, other]
      | pop popped =>
          have other : popped ≠ key := here
          simp [given, takes, other]
    rw [same, nothing.1, nothing.2, List.append_nil, List.nil_append]

theorem NoEmpty.apply (noEmpty : queue.NoEmpty) (op : Op Key Item) : (queue.apply op).NoEmpty := by
  intro key
  by_cases here : op.key = key
  · subst here
    cases op with
    | push pushed item =>
        show queue.push pushed item pushed ≠ some []
        rw [push, Function.update_self]
        intro empty
        exact List.append_ne_nil_of_right_ne_nil _ (by simp) (Option.some.inj empty)
    | pop popped =>
        show queue.pop popped popped ≠ some []
        cases there : queue.content popped with
        | nil =>
            rw [pop_of_empty there]
            exact noEmpty popped
        | cons item rest =>
            rw [pop_of_cons there, Function.update_self]
            exact stored_ne rest
  · rw [apply_other op here]
    exact noEmpty key

/-! ### A history -/

theorem given_cons (key : Key) (op : Op Key Item) (ops : List (Op Key Item)) :
    given key (op :: ops) = given key [op] ++ given key ops := by
  simp only [given, List.flatMap_cons, List.flatMap_nil, List.append_nil]

/-- Nothing is lost, doubled or reordered. -/
theorem conserved (ops : List (Op Key Item)) (key : Key) :
    queue.content key ++ given key ops =
      taken key queue ops ++ (queue.applyAll ops).content key := by
  induction ops generalizing queue with
  | nil =>
      show queue.content key ++ [] = [] ++ queue.content key
      rw [List.append_nil, List.nil_append]
  | cons op rest inductionHypothesis =>
      rw [given_cons, ← List.append_assoc, content_apply, List.append_assoc, inductionHypothesis,
        ← List.append_assoc]
      rfl

theorem given_append (key : Key) (past rest : List (Op Key Item)) :
    given key (past ++ rest) = given key past ++ given key rest := List.flatMap_append ..

theorem applyAll_append (past rest : List (Op Key Item)) :
    queue.applyAll (past ++ rest) = (queue.applyAll past).applyAll rest := List.foldl_append ..

theorem taken_append (key : Key) (past rest : List (Op Key Item)) :
    taken key queue (past ++ rest) =
      taken key queue past ++ taken key (queue.applyAll past) rest := by
  induction past generalizing queue with
  | nil => rfl
  | cons op past inductionHypothesis =>
      rw [List.cons_append, taken, inductionHypothesis, taken, List.append_assoc]
      rfl

theorem noEmpty_applyAll (noEmpty : queue.NoEmpty) (ops : List (Op Key Item)) :
    (queue.applyAll ops).NoEmpty := by
  induction ops generalizing queue with
  | nil => exact noEmpty
  | cons op rest inductionHypothesis => exact inductionHypothesis (noEmpty.apply op)

theorem applyAll_other (ops : List (Op Key Item)) {key : Key} (other : ∀ op ∈ ops, op.key ≠ key) :
    queue.applyAll ops key = queue key := by
  induction ops generalizing queue with
  | nil => rfl
  | cons op rest inductionHypothesis =>
      have later : (queue.apply op).applyAll rest key = queue.apply op key := by
        apply inductionHypothesis
        exact fun later there => other later (List.mem_cons_of_mem _ there)
      exact later.trans (apply_other op (other op List.mem_cons_self))

end KeyedQueue

end Gecit.Foundation
