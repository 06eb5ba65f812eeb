import Mathlib.Data.List.Forall2
import SpokenIntent.Host.Value
import SpokenIntent.Proofs.Binary64
import SpokenIntent.Proofs.Dict

/-!
Equality of values. It is symmetric and transitive, and a value equals itself exactly if there is no NaN in it,
however deep. No JSON value has one in it; and what an object has under a name is the same before and after it is
turned into a value.
-/

namespace SpokenIntent.HostValue

/-- Values with a NaN inside, at whatever depth. -/
inductive HasNaN : HostValue → Prop where
  | number {x : Binary64} (nan : x.isNaN = true) : HasNaN (.number x)
  | array {items : List HostValue} {v : HostValue} (member : v ∈ items) (has : HasNaN v) : HasNaN (.array items)
  | object {fields : List (String × HostValue)} {key : String} {v : HostValue} (member : (key, v) ∈ fields)
      (has : HasNaN v) : HasNaN (.object fields)

/-! ### Values within values -/

/-- What holds of a list and of an object as soon as it holds of all that is in it. -/
@[elab_as_elim]
theorem nested_induction {P : HostValue → Prop} (undefined : P .undefined) (null : P .null) (bool : ∀ b, P (.bool b))
    (number : ∀ x, P (.number x)) (string : ∀ s, P (.string s))
    (array : ∀ items, (∀ v ∈ items, P v) → P (.array items))
    (object : ∀ fields, (∀ e ∈ fields, P e.2) → P (.object fields)) (function : ∀ f, P (.function f))
    (v : HostValue) : P v := by
  refine @HostValue.rec P (fun items => ∀ v ∈ items, P v) (fun fields => ∀ e ∈ fields, P e.2) (fun e => P e.2)
    undefined null bool number string array object function ?_ ?_ ?_ ?_ ?_ v
  · simp
  · intro v items first rest w member
    rcases List.mem_cons.mp member with rfl | later
    · exact first
    · exact rest w later
  · simp
  · intro e fields first rest e' member
    rcases List.mem_cons.mp member with rfl | later
    · exact first
    · exact rest e' later
  · intro key v holds
    exact holds

/-- Values that are equal, and fields that are equal under the same key. -/
def Equal (v w : HostValue) : Prop := eq v w = true

def EqualFields (e f : String × HostValue) : Prop := e.1 = f.1 ∧ Equal e.2 f.2

theorem eqItems_iff (xs ys : List HostValue) : eqItems xs ys = true ↔ List.Forall₂ Equal xs ys := by
  induction xs generalizing ys with
  | nil => cases ys <;> simp [eqItems]
  | cons x xs ih =>
      cases ys with
      | nil => simp [eqItems]
      | cons y ys => rw [eqItems, Bool.and_eq_true, List.forall₂_cons, ih]; rfl

theorem eqFields_iff (xs ys : List (String × HostValue)) :
    eqFields xs ys = true ↔ List.Forall₂ EqualFields xs ys := by
  induction xs generalizing ys with
  | nil => cases ys <;> simp [eqFields]
  | cons e xs ih =>
      cases ys with
      | nil => simp [eqFields]
      | cons f ys =>
          rw [eqFields, Bool.and_eq_true, Bool.and_eq_true, beq_iff_eq, List.forall₂_cons, ih]
          rfl

theorem equal_array {items : List HostValue} {w : HostValue} :
    Equal (.array items) w ↔ ∃ items', w = .array items' ∧ List.Forall₂ Equal items items' := by
  cases w <;> simp [Equal, eq, eqItems_iff]

theorem equal_object {fields : List (String × HostValue)} {w : HostValue} :
    Equal (.object fields) w ↔ ∃ fields', w = .object fields' ∧ List.Forall₂ EqualFields fields fields' := by
  cases w <;> simp [Equal, eq, eqFields_iff]

theorem equal_number {x : Binary64} {w : HostValue} :
    Equal (.number x) w ↔ ∃ y, w = .number y ∧ x.eq y = true := by
  cases w <;> simp [Equal, eq]

/-! ### Symmetry and transitivity -/

theorem Equal.symm {v w : HostValue} (equal : Equal v w) : Equal w v := by
  induction v using nested_induction generalizing w with
  | number x =>
      obtain ⟨y, rfl, same⟩ := equal_number.mp equal
      exact equal_number.mpr ⟨x, rfl, by rwa [Binary64.eq_comm]⟩
  | array items ih =>
      obtain ⟨items', rfl, each⟩ := equal_array.mp equal
      apply equal_array.mpr ⟨items, rfl, _⟩
      have back := (List.forall₂_and_left items items').mpr ⟨ih, each⟩
      exact (back.imp fun v w both => both.1 both.2).flip
  | object fields ih =>
      obtain ⟨fields', rfl, each⟩ := equal_object.mp equal
      apply equal_object.mpr ⟨fields, rfl, _⟩
      have back := (List.forall₂_and_left fields fields').mpr ⟨ih, each⟩
      exact (back.imp fun e f both => ⟨both.2.1.symm, both.1 both.2.2⟩).flip
  | _ => cases w <;> simp_all [Equal, eq]

/-- What goes through each of the first list goes through the lists. -/
theorem forall₂_compose {α : Type} {R : α → α → Prop} {xs ys zs : List α}
    (through : ∀ x ∈ xs, ∀ y z, R x y → R y z → R x z) (first : List.Forall₂ R xs ys)
    (second : List.Forall₂ R ys zs) : List.Forall₂ R xs zs := by
  induction first generalizing zs with
  | nil => exact second
  | @cons x y xs ys same rest ih =>
      cases second with
      | @cons _ z _ zs same' rest' =>
          apply List.Forall₂.cons
          · exact through x List.mem_cons_self y z same same'
          · exact ih (fun x member => through x (List.mem_cons_of_mem _ member)) rest'

theorem Equal.trans {u v w : HostValue} (first : Equal u v) (second : Equal v w) : Equal u w := by
  induction u using nested_induction generalizing v w with
  | number x =>
      obtain ⟨y, rfl, same⟩ := equal_number.mp first
      obtain ⟨z, rfl, same'⟩ := equal_number.mp second
      exact equal_number.mpr ⟨z, rfl, Binary64.eq_trans same same'⟩
  | array items ih =>
      obtain ⟨items', rfl, each⟩ := equal_array.mp first
      obtain ⟨items'', rfl, each'⟩ := equal_array.mp second
      apply equal_array.mpr ⟨items'', rfl, _⟩
      exact forall₂_compose (fun u member v w => ih u member) each each'
  | object fields ih =>
      obtain ⟨fields', rfl, each⟩ := equal_object.mp first
      obtain ⟨fields'', rfl, each'⟩ := equal_object.mp second
      apply equal_object.mpr ⟨fields'', rfl, _⟩
      apply forall₂_compose _ each each'
      rintro e member f g ⟨key, value⟩ ⟨key', value'⟩
      exact ⟨key.trans key', ih e member value value'⟩
  | _ => cases v <;> cases w <;> simp_all [Equal, eq]

/-! ### NaN -/

theorem hasNaN_number {x : Binary64} : HasNaN (.number x) ↔ x.isNaN = true := by
  constructor
  · intro has
    cases has with
    | number nan => exact nan
  · exact .number

theorem hasNaN_array {items : List HostValue} : HasNaN (.array items) ↔ ∃ v ∈ items, HasNaN v := by
  constructor
  · intro has
    cases has with
    | array member within => exact ⟨_, member, within⟩
  · rintro ⟨v, member, has⟩
    exact .array member has

theorem hasNaN_object {fields : List (String × HostValue)} :
    HasNaN (.object fields) ↔ ∃ e ∈ fields, HasNaN e.2 := by
  constructor
  · intro has
    cases has with
    | object member within => exact ⟨_, member, within⟩
  · rintro ⟨e, member, has⟩
    exact .object member has

theorem equal_self_iff (v : HostValue) : Equal v v ↔ ¬ HasNaN v := by
  induction v using nested_induction with
  | number x => simp [Equal, eq, Binary64.eq_self, hasNaN_number]
  | array items ih =>
      have each : Equal (.array items) (.array items) ↔ ∀ v ∈ items, Equal v v := by
        rw [← List.forall₂_same, ← eqItems_iff]
        simp [Equal, eq]
      simp only [each, hasNaN_array, not_exists, not_and]
      exact forall₂_congr ih
  | object fields ih =>
      have each : Equal (.object fields) (.object fields) ↔ ∀ e ∈ fields, Equal e.2 e.2 := by
        have own (e : String × HostValue) : EqualFields e e ↔ Equal e.2 e.2 := by simp [EqualFields]
        simp only [← own, ← List.forall₂_same, ← eqFields_iff]
        simp [Equal, eq]
      simp only [each, hasNaN_object, not_exists, not_and]
      exact forall₂_congr ih
  | _ => exact iff_of_true (by simp [Equal, eq]) (by rintro ⟨⟩)

/-! ### JSON -/

mutual

/-- What is turned into a value has no NaN in it: no text denotes one. -/
theorem ofJson_clean (j : Json) : ¬ HasNaN (ofJson j) := by
  cases j with
  | number n =>
      rw [ofJson, hasNaN_number, Numeral.nearest_clean n]
      exact Bool.false_ne_true
  | array items =>
      rw [ofJson, hasNaN_array]
      rintro ⟨v, member, has⟩
      exact ofItems_clean items v member has
  | object members =>
      rw [ofJson, ofFields, hasNaN_object]
      rintro ⟨e, member, has⟩
      exact ofMembers_clean members e (Dict.mem_ofList member) has
  | null => rintro ⟨⟩
  | bool b => rintro ⟨⟩
  | string s => rintro ⟨⟩

theorem ofItems_clean (items : List Json) : ∀ v ∈ ofItems items, ¬ HasNaN v := by
  cases items with
  | nil => simp [ofItems]
  | cons x rest =>
      intro v member
      rcases List.mem_cons.mp member with rfl | later
      · exact ofJson_clean x
      · exact ofItems_clean rest v later

theorem ofMembers_clean (members : List (String × Json)) : ∀ e ∈ ofMembers members, ¬ HasNaN e.2 := by
  cases members with
  | nil => simp [ofMembers]
  | cons m rest =>
      intro e member
      rcases List.mem_cons.mp member with rfl | later
      · exact ofJson_clean m.2
      · exact ofMembers_clean rest e later

end

theorem ofMembers_eq_map (ms : List (String × Json)) : ofMembers ms = ms.map fun m => (m.1, ofJson m.2) := by
  induction ms with
  | nil => rfl
  | cons m ms ih =>
      rw [ofMembers, ih]
      rfl

theorem get?_ofMembers (name : String) (ms : List (String × Json)) :
    Dict.get? name (ofMembers ms) = (Dict.get? name ms).map ofJson := by
  induction ms with
  | nil => rfl
  | cons m ms ih =>
      rw [ofMembers, Dict.get?, Dict.get?, ih]
      split_ifs <;> rfl

/-- Looking up a member and turning it into a value may be done in either order. -/
theorem get?_ofJson (key : String) (j : Json) : (ofJson j).get? key = (j.get? key).map ofJson := by
  cases j with
  | object members =>
      have back : (ofMembers members).reverse = ofMembers members.reverse := by
        rw [ofMembers_eq_map, ofMembers_eq_map, List.map_reverse]
      rw [ofJson, ofFields, get?, Json.get?, Dict.get?_ofList, Dict.get?_ofList, back, get?_ofMembers]
  | _ => rfl

/-- Equality of values is symmetric and transitive; a value equals itself exactly if it has no NaN in it, and
functions are equal exactly if they are the same. No value that comes from JSON has a NaN in it, so each equals itself,
and each has under a name what comes from the member of that name, if there is one. -/
theorem equality_lawful :
    (∀ v w : HostValue, eq v w = eq w v) ∧
    (∀ u v w : HostValue, eq u v = true → eq v w = true → eq u w = true) ∧
    (∀ v : HostValue, eq v v = true ↔ ¬ HasNaN v) ∧
    (∀ f g : HostFunction, eq (.function f) (.function g) = true ↔ f.id = g.id) ∧
    ∀ j : Json, ¬ HasNaN (ofJson j) ∧ eq (ofJson j) (ofJson j) = true ∧
      ∀ key : String, (ofJson j).get? key = (j.get? key).map ofJson := by
  refine ⟨?_, fun u v w => Equal.trans, equal_self_iff, ?_, ?_⟩
  · intro v w
    rw [Bool.eq_iff_iff]
    exact ⟨Equal.symm, Equal.symm⟩
  · rintro ⟨f⟩ ⟨g⟩
    simp [eq]
  · intro j
    exact ⟨ofJson_clean j, (equal_self_iff _).mpr (ofJson_clean j), fun key => get?_ofJson key j⟩

/-- The two zeros beside a function, and a NaN that is in an object in a list. -/
theorem zeros_equal :
    let zero : Binary64 := ⟨0⟩
    let minusZero : Binary64 := ⟨0x8000000000000000⟩
    let nan : Binary64 := ⟨0x7FF8000000000000⟩
    let u : HostValue := .array [.number zero, .function ⟨1⟩]
    let v : HostValue := .array [.number minusZero, .function ⟨1⟩]
    let w : HostValue := .array [.object [("x", .number nan)]]
    eq u v = true ∧ eq v u = true ∧ eq u u = true ∧ eq w w = false := by
  intro zero minusZero nan u v w
  obtain ⟨symmetric, transitive, own, -⟩ := equality_lawful
  have there : eq u v = true := by decide
  have back : eq v u = true := (symmetric v u).trans there
  have inside : HasNaN w := .array List.mem_cons_self (.object List.mem_cons_self (.number (by decide)))
  refine ⟨there, back, transitive u v u there back, ?_⟩
  rw [Bool.eq_false_iff]
  exact fun equal => (own w).mp equal inside

end SpokenIntent.HostValue
