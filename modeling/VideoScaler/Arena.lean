/-! Objects that keep their identity while they change.

An arena hands out a reference for every object it takes in. References are never used
again, so a reference means the same object for good.
-/

set_option autoImplicit false

namespace VideoScaler

/-- A reference to an object of an arena. -/
structure Ref (α : Type) where
  index : Nat
  deriving Repr

/-- References are compared by themselves, whatever they refer to. -/
instance {α : Type} : DecidableEq (Ref α) := fun r s =>
  decidable_of_iff (r.index = s.index) ⟨fun same => by cases r; cases s; cases same; rfl,
    congrArg Ref.index⟩

structure Arena (α : Type) where
  objects : Array α

namespace Arena

variable {α : Type}

def empty : Arena α := ⟨#[]⟩

def add (arena : Arena α) (a : α) : Ref α × Arena α :=
  (⟨arena.objects.size⟩, ⟨arena.objects.push a⟩)

def get? (arena : Arena α) (r : Ref α) : Option α :=
  arena.objects[r.index]?

def modify (arena : Arena α) (r : Ref α) (f : α → α) : Arena α :=
  ⟨arena.objects.modify r.index f⟩

@[simp] theorem get?_empty (r : Ref α) : (empty : Arena α).get? r = none := by
  simp [empty, get?]

@[simp] theorem get?_add_self (arena : Arena α) (a : α) :
    (arena.add a).2.get? (arena.add a).1 = some a := by
  simp [add, get?]

theorem get?_add_of_some {arena : Arena α} {r : Ref α} {b : α} (h : arena.get? r = some b)
    (a : α) : (arena.add a).2.get? r = some b := by
  have hr : r.index < arena.objects.size := (Array.getElem?_eq_some_iff.1 h).1
  simpa [add, get?, Array.getElem?_push, Nat.ne_of_lt hr] using h

theorem get?_add_of_ne {arena : Arena α} {a : α} {r : Ref α} (h : (arena.add a).1 ≠ r) :
    (arena.add a).2.get? r = arena.get? r := by
  have hi : r.index ≠ arena.objects.size := fun heq => h (by cases r; simp_all [add])
  simp [add, get?, Array.getElem?_push, hi]

theorem get?_add_new (arena : Arena α) (a : α) : arena.get? (arena.add a).1 = none := by
  simp [add, get?]

theorem add_ne_of_some {arena : Arena α} {r : Ref α} {b : α} (h : arena.get? r = some b)
    (a : α) : (arena.add a).1 ≠ r := by
  have hr : r.index < arena.objects.size := (Array.getElem?_eq_some_iff.1 h).1
  intro heq
  simp only [add] at heq
  rw [← heq] at hr
  exact Nat.lt_irrefl _ hr

@[simp] theorem get?_modify_self (arena : Arena α) (r : Ref α) (f : α → α) :
    (arena.modify r f).get? r = (arena.get? r).map f := by
  simp [modify, get?, Array.getElem?_modify]

theorem modify_add_self (arena : Arena α) (a : α) (f : α → α) :
    (arena.add a).2.modify (arena.add a).1 f = (arena.add (f a)).2 := by
  refine congrArg Arena.mk (Array.ext (by simp [add]) fun i hi _ => ?_)
  have bound : i < arena.objects.size + 1 := by simpa [add] using hi
  rcases Nat.lt_succ_iff_lt_or_eq.1 bound with before | rfl
  · simp [add, Array.getElem_modify, Array.getElem_push, before, Nat.ne_of_gt before]
  · simp [add, Array.getElem_modify]

theorem get?_modify_of_ne {r s : Ref α} (h : r ≠ s) (arena : Arena α) (f : α → α) :
    (arena.modify r f).get? s = arena.get? s := by
  have hi : r.index ≠ s.index := fun heq => h (by cases r; cases s; simp_all)
  simp [modify, get?, Array.getElem?_modify, hi]

end Arena

end VideoScaler
