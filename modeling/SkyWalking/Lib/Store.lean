import Mathlib.Logic.Function.Basic
import Mathlib.Order.Basic

/-!
# A growing table of mutable objects

Programs with shared mutable objects are embedded by giving every object an address and passing the
table of current values along. Addresses are never reused, so the next free one is the size.
-/

structure Store (α : Type) where
  cell : Nat → α
  size : Nat

namespace Store

variable {α : Type}

def empty [Inhabited α] : Store α :=
  { cell := fun _ => default
    size := 0 }

def get (store : Store α) (address : Nat) : α := store.cell address

def set (store : Store α) (address : Nat) (value : α) : Store α :=
  { store with cell := Function.update store.cell address value }

def modify (store : Store α) (address : Nat) (f : α → α) : Store α :=
  store.set address (f (store.get address))

/-- The new object sits at the old size. -/
def alloc (store : Store α) (value : α) : Store α :=
  { cell := Function.update store.cell store.size value
    size := store.size + 1 }

@[simp]
theorem size_modify (store : Store α) (address : Nat) (f : α → α) :
    (store.modify address f).size = store.size := rfl

@[simp]
theorem size_alloc (store : Store α) (value : α) :
    (store.alloc value).size = store.size + 1 := rfl

theorem get_set (store : Store α) (address : Nat) (value : α) (query : Nat) :
    (store.set address value).get query =
      if query = address then value else store.get query := by
  simp [get, set, Function.update_apply]

@[simp]
theorem get_set_self (store : Store α) (address : Nat) (value : α) :
    (store.set address value).get address = value := by
  simp [get_set]

theorem get_set_of_ne (store : Store α) {address query : Nat} (value : α)
    (hne : query ≠ address) : (store.set address value).get query = store.get query := by
  simp [get_set, hne]

theorem get_modify (store : Store α) (address : Nat) (f : α → α) (query : Nat) :
    (store.modify address f).get query =
      if query = address then f (store.get query) else store.get query := by
  rw [modify, get_set]
  split
  · next heq => rw [heq]
  · rfl

@[simp]
theorem get_modify_self (store : Store α) (address : Nat) (f : α → α) :
    (store.modify address f).get address = f (store.get address) := by
  simp [get_modify]

theorem get_modify_of_ne (store : Store α) {address query : Nat} (f : α → α)
    (hne : query ≠ address) : (store.modify address f).get query = store.get query := by
  simp [get_modify, hne]

theorem modify_modify (store : Store α) (address : Nat) (f g : α → α) :
    (store.modify address f).modify address g = store.modify address fun value => g (f value) := by
  simp only [modify, get_set_self]
  simp only [set, mk.injEq, and_true]
  exact Function.update_idem _ _ _

theorem modify_congr (store : Store α) (address : Nat) {f g : α → α}
    (hsame : f (store.get address) = g (store.get address)) :
    store.modify address f = store.modify address g := by
  rw [modify, modify, hsame]

theorem get_alloc (store : Store α) (value : α) (query : Nat) :
    (store.alloc value).get query =
      if query = store.size then value else store.get query := by
  simp [get, alloc, Function.update_apply]

@[simp]
theorem get_alloc_size (store : Store α) (value : α) :
    (store.alloc value).get store.size = value := by
  simp [get_alloc]

theorem get_alloc_of_ne (store : Store α) {query : Nat} (value : α)
    (hne : query ≠ store.size) : (store.alloc value).get query = store.get query := by
  simp [get_alloc, hne]

theorem get_alloc_of_lt (store : Store α) {query : Nat} (value : α)
    (hlt : query < store.size) : (store.alloc value).get query = store.get query :=
  store.get_alloc_of_ne value (Nat.ne_of_lt hlt)

@[simp]
theorem modify_alloc_size (store : Store α) (value : α) (f : α → α) :
    (store.alloc value).modify store.size f = store.alloc (f value) := by
  simp only [modify, get_alloc_size]
  simp only [set, alloc, mk.injEq, and_true]
  exact Function.update_idem _ _ _

section Map

variable {β : Type} (g : α → β)

def map (store : Store α) : Store β :=
  { cell := fun address => g (store.cell address)
    size := store.size }

@[simp]
theorem size_map (store : Store α) : (store.map g).size = store.size := rfl

@[simp]
theorem get_map (store : Store α) (address : Nat) :
    (store.map g).get address = g (store.get address) := rfl

@[simp]
theorem map_alloc (store : Store α) (value : α) :
    (store.alloc value).map g = (store.map g).alloc (g value) := by
  simp only [map, alloc, mk.injEq, and_true]
  funext query
  exact Function.apply_update (fun _ => g) store.cell store.size value query

theorem map_modify (store : Store α) (address : Nat) (f : α → α) (f' : β → β)
    (hcomm : g (f (store.get address)) = f' (g (store.get address))) :
    (store.modify address f).map g = (store.map g).modify address f' := by
  simp only [map, modify, set, mk.injEq, and_true]
  funext query
  have happly := Function.apply_update (fun _ => g) store.cell address (f (store.get address)) query
  rw [hcomm] at happly
  exact happly

/-- A change that the view does not show. -/
theorem map_modify_of_eq (store : Store α) (address : Nat) (f : α → α)
    (hsame : g (f (store.get address)) = g (store.get address)) :
    (store.modify address f).map g = store.map g := by
  simp only [map, modify, set, mk.injEq, and_true]
  funext query
  have happly := Function.apply_update (fun _ => g) store.cell address (f (store.get address)) query
  rw [hsame] at happly
  rw [happly]
  exact congrFun (Function.update_eq_self address fun query => g (store.cell query)) query

end Map

end Store
