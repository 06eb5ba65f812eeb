/-!
First in, first out queues. Items wait in `front`, those pushed since it was last refilled in
`back`, newest first; `toList` is the order in which they leave.
-/

namespace SpokenIntent

structure Fifo (α : Type) where
  front : List α
  back : List α

namespace Fifo

variable {α : Type}

def empty : Fifo α := ⟨[], []⟩

def toList (q : Fifo α) : List α := q.front ++ q.back.reverse

def size (q : Fifo α) : Nat := q.front.length + q.back.length

def append (q : Fifo α) (items : List α) : Fifo α := ⟨q.front, items.reverse ++ q.back⟩

def pop? (q : Fifo α) : Option (α × Fifo α) :=
  match q.front with
  | a :: front => some (a, ⟨front, q.back⟩)
  | [] =>
    match q.back.reverse with
    | [] => none
    | a :: front => some (a, ⟨front, []⟩)

@[simp] theorem toList_empty : (empty : Fifo α).toList = [] := rfl

@[simp] theorem length_toList (q : Fifo α) : q.toList.length = q.size := by
  simp [toList, size]

@[simp] theorem toList_append (q : Fifo α) (items : List α) :
    (q.append items).toList = q.toList ++ items := by
  simp [toList, append]

theorem append_eq_self {q : Fifo α} {items : List α} : q.append items = q ↔ items = [] := by
  obtain ⟨front, back⟩ := q
  simp [append]

theorem pop?_eq_none {q : Fifo α} : q.pop? = none ↔ q.toList = [] := by
  obtain ⟨front, back⟩ := q
  cases front with
  | cons a front => simp [pop?, toList]
  | nil => cases h : back.reverse <;> simp [pop?, toList, h]

theorem toList_of_pop? {q rest : Fifo α} {a : α} (h : q.pop? = some (a, rest)) :
    q.toList = a :: rest.toList := by
  obtain ⟨front, back⟩ := q
  cases front with
  | cons b front =>
    simp only [pop?, Option.some.injEq, Prod.mk.injEq] at h
    obtain ⟨rfl, rfl⟩ := h
    simp [toList]
  | nil =>
    cases hb : back.reverse with
    | nil => simp [pop?, hb] at h
    | cons b front =>
      simp only [pop?, hb, Option.some.injEq, Prod.mk.injEq] at h
      obtain ⟨rfl, rfl⟩ := h
      simp [toList, hb]

end Fifo

end SpokenIntent
