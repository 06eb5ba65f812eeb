import SpokenIntent.Proofs.Json.Layout
import SpokenIntent.Proofs.Json.Passing

/-!
A record that is read from the text of an object is what the members of that object make of it, one after the other.
Members that the record does not ask for leave it as it is, whatever their values are.
-/

namespace SpokenIntent.Json

/-- Members with their names, in the order in which they come. -/
def collect {α : Type} (item : Reader α) (members : List (String × α)) (name : String) :
    Except Fault (Reader (List (String × α))) :=
  .ok fun cs => (item cs).map fun (x, cs) => (members ++ [(name, x)], cs)

section
variable {α σ : Type} {item : Reader α} {member : σ → String → Except Fault (Reader σ)}
  {step : σ → String × α → Except Fault σ} {cs rest : List Char}

/-- Where the value of a member can be read, the member does to a state what `step` says. -/
def Steps (item : Reader α) (member : σ → String → Except Fault (Reader σ))
    (step : σ → String × α → Except Fault σ) : Prop :=
  ∀ cs x rest, item cs = .ok (x, rest) →
    ∀ s name, ((member s name).bind fun value => value cs) = (step s (name, x)).map fun s => (s, rest)

/-- The run after one member has been read. -/
theorem members_step (steps : Steps item member step) {tick c : Char} {clock cs₁ cs₂ cs₃ cs₄ : List Char}
    {name : String} {x : α} (opening : skipBlank cs = '"' :: cs₁) (named : readText cs₁ = .ok (name, cs₂))
    (colon : skipBlank cs₂ = ':' :: cs₃) (taken : item cs₃ = .ok (x, cs₄)) (closing : skipBlank cs₄ = c :: rest)
    (s : σ) :
    readMembers readText member (tick :: clock) s cs =
      (step s (name, x)).bind fun t =>
        if c = '}' then .ok (t, rest)
        else if c = ',' then readMembers readText member clock t rest
        else .error .malformed := by
  have does := steps cs₃ x cs₄ taken s name
  simp only [readMembers, opening, named, colon, ne_eq, not_true_eq_false, ↓reduceIte]
  rcases known : member s name with fault | value
  · rw [known] at does
    rcases stepped : step s (name, x) with fault' | t
    · rw [stepped] at does
      cases does
      rfl
    · rw [stepped] at does
      cases does
  · rw [known] at does
    rcases stepped : step s (name, x) with fault | t
    · rw [stepped] at does
      have does : value cs₃ = .error fault := does
      simp only [does]
      rfl
    · rw [stepped] at does
      have does : value cs₃ = .ok (t, cs₄) := does
      simp only [does, closing]
      rfl

theorem collect_eq_ok {ms ms' : List (String × α)} {name : String} {value : Reader (List (String × α))}
    (known : collect item ms name = .ok value) (taken : value cs = .ok (ms', rest)) :
    ∃ x, item cs = .ok (x, rest) ∧ ms' = ms ++ [(name, x)] := by
  cases known
  obtain ⟨x, rfl, found⟩ := map_eq_ok (f := fun x => ms ++ [(name, x)]) taken
  exact ⟨x, found, rfl⟩

theorem members_steps (steps : Steps item member step) {clock : List Char} {ms ms' : List (String × α)}
    (told : readMembers readText (collect item) clock ms cs = .ok (ms', rest)) :
    ∃ new, ms' = ms ++ new ∧
      ∀ s, readMembers readText member clock s cs = (new.foldlM step s).map fun s => (s, rest) := by
  induction clock generalizing ms cs with
  | nil => cases told
  | cons _ clock ih =>
      obtain ⟨cs₁, name, cs₂, value, cs₃, t, cs₄, c, cs₅, opening, named, known, colon, taken, closing, onward⟩ :=
        readMembers_eq_ok told
      obtain ⟨x, found, rfl⟩ := collect_eq_ok known taken
      -- The same member is read first by both, since collecting it has shown where it ends.
      rcases onward with ⟨rfl, rfl, rfl⟩ | ⟨last, rfl, more⟩
      · refine ⟨[(name, x)], rfl, fun s => ?_⟩
        rw [members_step steps opening named colon found closing, List.foldlM_cons]
        cases step s (name, x) <;> rfl
      · obtain ⟨new, rfl, same⟩ := ih more
        refine ⟨(name, x) :: new, by simp, fun s => ?_⟩
        rw [members_step steps opening named colon found closing, List.foldlM_cons]
        cases step s (name, x) with
        | error fault => rfl
        | ok t => exact same t

/-- An object is read as its members say, one after the other. -/
theorem object_steps (steps : Steps item member step) {ms : List (String × α)}
    (told : readObject readText (collect item) [] cs = .ok (ms, rest)) (s : σ) :
    readObject readText member s cs = (ms.foldlM step s).map fun s => (s, rest) := by
  rw [readObject] at told ⊢
  rcases next : skipBlank cs with _ | ⟨c, more⟩
  · simp only [next, reduceCtorEq] at told
  · simp only [next] at told ⊢
    split_ifs at told ⊢ with last
    · cases told
      rfl
    · obtain ⟨new, rfl, same⟩ := members_steps steps told
      exact same s

end

/-! ### Values -/

theorem readValue_object {clock cs rest : List Char} {depth : Nat} {ms : List (String × Json)}
    (told : readValue clock depth cs = .ok (.object ms, rest)) :
    ∃ clock' depth' more, skipBlank cs = '{' :: more ∧
      readObject readText (collect (readValue clock' depth')) [] more = .ok (ms, rest) := by
  rcases clock with _ | ⟨tick, clock⟩
  · cases told
  rw [readValue] at told
  rcases opening : skipBlank cs with _ | ⟨c, more⟩
  · simp only [opening, reduceCtorEq] at told
  simp only [opening] at told
  split_ifs at told with n t f quote digit bracket brace
  · obtain ⟨_, apart, -⟩ := map_eq_ok (f := fun _ => Json.null) told
    cases apart
  · obtain ⟨_, apart, -⟩ := map_eq_ok (f := fun _ => Json.bool true) told
    cases apart
  · obtain ⟨_, apart, -⟩ := map_eq_ok (f := fun _ => Json.bool false) told
    cases apart
  · obtain ⟨_, apart, -⟩ := map_eq_ok (f := Json.string) told
    cases apart
  · obtain ⟨_, apart, -⟩ := map_eq_ok (f := Json.number) told
    cases apart
  · cases depth with
    | zero => cases told
    | succ depth =>
        obtain ⟨_, apart, -⟩ := map_eq_ok (f := Json.array) told
        cases apart
  · cases depth with
    | zero => cases told
    | succ depth =>
        obtain ⟨_, same, object⟩ := map_eq_ok (f := Json.object) told
        cases same
        exact ⟨clock, depth, more, by rw [brace], object⟩

theorem skipBlank_of_skipBlank {cs : List Char} {c : Char} {more : List Char} (opening : skipBlank cs = c :: more) :
    skipBlank (c :: more) = c :: more := by
  rw [← opening, skipBlank_again]

/-- A value of the wrong kind is at fault for being that, and for nothing else. -/
theorem refuse_value {clock cs rest : List Char} {depth : Nat} {x : Json}
    (told : readValue clock depth cs = .ok (x, rest)) : refuse cs = .unfit := by
  rcases clock with _ | ⟨tick, clock⟩
  · cases told
  rw [readValue] at told
  rw [refuse]
  rcases opening : skipBlank cs with _ | ⟨c, more⟩
  · simp only [opening, reduceCtorEq] at told
  simp only [opening] at told ⊢
  split_ifs at told ⊢ with n t f quote digit bracket brace
  · obtain ⟨_, -, found⟩ := map_eq_ok (f := fun _ => Json.null) told
    rw [found]
  · obtain ⟨_, -, found⟩ := map_eq_ok (f := fun _ => Json.bool true) told
    rw [found]
  · obtain ⟨_, -, found⟩ := map_eq_ok (f := fun _ => Json.bool false) told
    rw [found]
  · obtain ⟨_, -, found⟩ := map_eq_ok (f := Json.string) told
    rw [found]
  · obtain ⟨_, -, found⟩ := map_eq_ok (f := Json.number) told
    rw [found]
  · rfl
  · rfl
  · next open' => simp [open'] at bracket
  · next brace => simp [brace] at bracket

/-- What a value is where a text or nothing is asked for. -/
def optionalText : Json → Except Fault (Option String)
  | .null => .ok none
  | .string s => .ok (some s)
  | _ => .error .unfit

theorem readOptional_other {α : Type} (reader : Reader α) {cs more : List Char} {c : Char}
    (opening : skipBlank cs = c :: more) (apart : c ≠ 'n') :
    readOptional reader cs = (reader (c :: more)).map fun (x, cs) => (some x, cs) := by
  rw [readOptional, opening]
  split
  · next same =>
    cases same
    exact absurd rfl apart
  · rfl

/-- A text may be given, or null; whatever else is given does not fit. -/
theorem readOptional_value {clock cs rest : List Char} {depth : Nat} {x : Json}
    (told : readValue clock depth cs = .ok (x, rest)) :
    readOptional readString cs = (optionalText x).map fun v => (v, rest) := by
  have refused := refuse_value told
  rcases clock with _ | ⟨tick, clock⟩
  · cases told
  rw [readValue] at told
  rcases opening : skipBlank cs with _ | ⟨c, more⟩
  · simp only [opening, reduceCtorEq] at told
  have unfit : refuse (c :: more) = .unfit := by
    rw [← refused, refuse, refuse, opening, skipBlank_of_skipBlank opening]
  have other (notNull : c ≠ 'n') (notText : c ≠ '"') : readOptional readString cs = .error .unfit := by
    rw [readOptional_other readString opening notNull]
    simp only [readString, expect, skipBlank_of_skipBlank opening, notText, ↓reduceIte, unfit]
    rfl
  simp only [opening] at told
  split_ifs at told with n t f quote digit bracket brace
  · obtain ⟨_, rfl, found⟩ := map_eq_ok (f := fun _ => Json.null) told
    simp only [readOptional, opening, n, found]
    rfl
  · obtain ⟨_, rfl, -⟩ := map_eq_ok (f := fun _ => Json.bool true) told
    exact other n (t ▸ by decide)
  · obtain ⟨_, rfl, -⟩ := map_eq_ok (f := fun _ => Json.bool false) told
    exact other n (f ▸ by decide)
  · obtain ⟨s, rfl, found⟩ := map_eq_ok (f := Json.string) told
    rw [readOptional_other readString opening n, readString, expect, skipBlank_of_skipBlank opening]
    simp only [quote, ↓reduceIte, found]
    rfl
  · obtain ⟨_, rfl, -⟩ := map_eq_ok (f := Json.number) told
    exact other n quote
  · cases depth with
    | zero => cases told
    | succ depth =>
        obtain ⟨_, rfl, -⟩ := map_eq_ok (f := Json.array) told
        exact other n quote
  · cases depth with
    | zero => cases told
    | succ depth =>
        obtain ⟨_, rfl, -⟩ := map_eq_ok (f := Json.object) told
        exact other n quote

end SpokenIntent.Json
