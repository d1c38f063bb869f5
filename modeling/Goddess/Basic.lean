import Mathlib.Data.List.Basic

/-!
# List facts the models share

Counting and mapping along a list that one step rewrites at one position: the thread list of the
control service's callers, and the closed flags of a stream request's bodies.
-/

namespace Goddess

variable {α : Type} (p : α → Bool)

/-- Rewriting position `i` moves the count by what the old and the new element contribute. -/
theorem countP_set_add {l : List α} {i : Nat} {a : α} (h : l[i]? = some a) (b : α) :
    (l.set i b).countP p + (p a).toNat = l.countP p + (p b).toNat := by
  induction l generalizing i with
  | nil => simp at h
  | cons x l ih =>
    cases i with
    | zero =>
      obtain rfl : x = a := by simpa using h
      simp only [List.set_cons_zero, List.countP_cons]
      cases p x <;> cases p b <;> simp
    | succ i =>
      have := ih (by simpa using h)
      simp only [List.set_cons_succ, List.countP_cons]
      omega

theorem one_le_countP {l : List α} {i : Nat} {a : α} (h : l[i]? = some a) (ha : p a = true) :
    1 ≤ l.countP p :=
  List.countP_pos_iff.2 ⟨a, List.getElem?_mem h, ha⟩

theorem two_le_countP {l : List α} {i j : Nat} {a b : α} (hij : i ≠ j) (hi : l[i]? = some a)
    (hj : l[j]? = some b) (ha : p a = true) (hb : p b = true) : 2 ≤ l.countP p := by
  induction l generalizing i j with
  | nil => simp at hi
  | cons x l ih =>
    rw [List.countP_cons]
    cases i with
    | zero =>
      cases j with
      | zero => exact absurd rfl hij
      | succ j =>
        obtain rfl : x = a := by simpa using hi
        have := one_le_countP p (by simpa using hj) hb
        simp only [ha, if_true]
        omega
    | succ i =>
      cases j with
      | zero =>
        obtain rfl : x = b := by simpa using hj
        have := one_le_countP p (by simpa using hi) ha
        simp only [hb, if_true]
        omega
      | succ j =>
        have hij' : i ≠ j := fun e => hij (congrArg Nat.succ e)
        have := ih hij' (by simpa using hi) (by simpa using hj)
        omega

/-- Rewriting position `i` with an element that `f` does not tell apart from the old one leaves
the image under `f` as it was. -/
theorem map_set_of_eq {β : Type} {f : α → β} {l : List α} {i : Nat} {a b : α}
    (ha : l[i]? = some a) (hf : f b = f a) : (l.set i b).map f = l.map f := by
  induction l generalizing i with
  | nil => simp at ha
  | cons x l ih =>
    cases i with
    | zero =>
      obtain rfl : x = a := by simpa using ha
      simp [hf]
    | succ i => simp [ih (by simpa using ha)]

end Goddess
