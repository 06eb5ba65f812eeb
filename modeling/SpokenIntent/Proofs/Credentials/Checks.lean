import SpokenIntent.Credentials

/-!
What is asked of a host value before it is taken for credentials. The checks go back and forth between the key and the
region; the first that fails is the one that is reported, and where none does the two texts are kept as they are.
-/

namespace SpokenIntent.Credentials

open Text

/-! ### Two texts -/

variable {key region : String} {c : Credentials} {e : CredentialsError}

theorem ofTexts_eq_ok : ofTexts key region = .ok c ↔ c.key = key ∧ c.region = region := by
  obtain ⟨k, r, keyFilled, regionFilled⟩ := c
  constructor
  · intro told
    simp only [ofTexts] at told
    split at told
    · split at told
      · cases told
        exact ⟨rfl, rfl⟩
      · cases told
    · cases told
  · rintro ⟨rfl, rfl⟩
    simp only [ofTexts, keyFilled, regionFilled, ↓reduceDIte]

theorem ofTexts_eq_error :
    ofTexts key region = .error e ↔
      isBlankText key = true ∧ .emptyValue "key" = e ∨
        isBlankText key = false ∧ isBlankText region = true ∧ .emptyValue "region" = e := by
  cases blank : isBlankText key with
  | true => simp [ofTexts, blank]
  | false => cases empty : isBlankText region <;> simp [ofTexts, blank, empty]

theorem ofOptions_eq_ok {key region : Option String} :
    ofOptions key region = .ok c ↔ key = some c.key ∧ region = some c.region := by
  rcases key with _ | key <;> rcases region with _ | region
  · simp [ofOptions]
  · simp [ofOptions]
  · simp [ofOptions]
  · rw [ofOptions, ofTexts_eq_ok, Option.some.injEq, Option.some.injEq]
    exact and_congr eq_comm eq_comm

/-! ### Host values -/

/-- The two texts that credentials are made of. -/
inductive Field where
  | key
  | region

namespace Field

def name : Field → String
  | .key => "key"
  | .region => "region"

def missing : Field → CredentialsError
  | .key => .missingKey
  | .region => .missingRegion

/-- What an object of the host has under the name; anything else has nothing. -/
def of? (field : Field) (value : Option HostValue) : Option HostValue := value.bind (HostValue.get? field.name)

def text? (field : Field) (value : Option HostValue) : Option String := (field.of? value).bind HostValue.asString?

end Field

inductive Check where
  | object
  | present (field : Field)
  | text (field : Field)
  | filled (field : Field)

namespace Check

/-- In the order in which they are made. -/
def all : List Check :=
  [.object, .present .key, .present .region, .text .key, .text .region, .filled .key, .filled .region]

def isObject : Option HostValue → Bool
  | some (.object _) => true
  | _ => false

def isThere : Option HostValue → Bool
  | none => false
  | some .undefined => false
  | some _ => true

/-- Each check by itself, whatever the others say. -/
def passes (value : Option HostValue) : Check → Bool
  | .object => isObject value
  | .present field => isThere (field.of? value)
  | .text field => (field.text? value).isSome
  | .filled field => (field.text? value).any fun s => !isBlankText s

def error : Check → CredentialsError
  | .object => .missingObject
  | .present field => field.missing
  | .text field => .wrongType field.name
  | .filled field => .emptyValue field.name

/-- The first check that fails. -/
def failing? (value : Option HostValue) : Option Check := all.find? fun check => !check.passes value

end Check

/-- What may be found under a name: nothing that counts, something that is not a text, or a text. -/
theorem found_cases (name : String) (fields : List (String × HostValue)) :
    present? name fields = none ∧ Check.isThere (Dict.get? name fields) = false ∨
      ∃ value, present? name fields = some value ∧ Dict.get? name fields = some value ∧
        Check.isThere (some value) = true := by
  rw [present?]
  cases Dict.get? name fields with
  | none => exact .inl ⟨rfl, rfl⟩
  | some value => cases value <;> first | exact .inl ⟨rfl, rfl⟩ | exact .inr ⟨_, rfl, rfl, rfl⟩

/-- The checks one after the other, and then the texts as they are. -/
theorem ofHostValue_checked (value : Option HostValue) :
    match Check.failing? value with
    | some check => ofHostValue value = .error check.error
    | none => ∃ key region, Field.key.text? value = some key ∧ Field.region.text? value = some region ∧
        ofHostValue value = ofTexts key region ∧ isBlankText key = false ∧ isBlankText region = false := by
  by_cases object : ∃ fields, value = some (.object fields)
  · rcases object with ⟨fields, rfl⟩
    have isObject : Check.isObject (some (.object fields)) = true := rfl
    simp only [Check.failing?, Check.all, List.find?_cons, Check.passes, isObject, Field.text?, Field.of?, Field.name,
      Option.bind_some, HostValue.get?, Bool.not_true, ofHostValue]
    rcases found_cases "key" fields with ⟨absent, gone⟩ | ⟨key, present, found, there⟩
    · simp [absent, gone, Check.error, Field.missing]
    · rcases found_cases "region" fields with ⟨absent, gone⟩ | ⟨region, also, too, where'⟩
      · simp [absent, gone, present, found, there, Check.error, Field.missing]
      · simp only [present, found, there, also, too, where', Option.bind_some, Bool.not_true]
        cases isKey : key.asString? with
        | none => rfl
        | some k =>
            cases isRegion : region.asString? with
            | none => rfl
            | some r =>
                cases blank : isBlankText k with
                | true => simp [blank, ofTexts, Check.error, Field.name]
                | false =>
                    cases empty : isBlankText r with
                    | true => simp [blank, empty, ofTexts, Check.error, Field.name]
                    | false => simp [blank, empty]
  · have none_such : Check.failing? value = some .object := by
      rcases value with _ | value
      · rfl
      · cases value <;> first | rfl | exact absurd ⟨_, rfl⟩ object
    rw [none_such]
    rcases value with _ | value
    · rfl
    · cases value <;> first | rfl | exact absurd ⟨_, rfl⟩ object

variable {value : Option HostValue}

/-- What is reported is the first check that fails, whatever is wrong besides. -/
theorem ofHostValue_eq_error :
    ofHostValue value = .error e ↔ ∃ check, Check.failing? value = some check ∧ check.error = e := by
  have checked := ofHostValue_checked value
  cases failing : Check.failing? value with
  | some check =>
      rw [failing] at checked
      simp [checked]
  | none =>
      rw [failing] at checked
      obtain ⟨key, region, -, -, same, keyFilled, regionFilled⟩ := checked
      rw [same, ofTexts_eq_error]
      simp [keyFilled, regionFilled]

theorem ofHostValue_isOk : (∃ c, ofHostValue value = .ok c) ↔ Check.failing? value = none := by
  constructor
  · rintro ⟨c, taken⟩
    cases failing : Check.failing? value with
    | none => rfl
    | some check =>
        rw [ofHostValue_eq_error.mpr ⟨check, failing, rfl⟩] at taken
        cases taken
  · intro passed
    cases outcome : ofHostValue value with
    | ok c => exact ⟨c, rfl⟩
    | error e =>
        obtain ⟨check, failing, -⟩ := ofHostValue_eq_error.mp outcome
        rw [passed] at failing
        cases failing

theorem text?_eq_some {field : Field} {s : String} :
    field.text? value = some s ↔
      ∃ fields, value = some (.object fields) ∧ Dict.get? field.name fields = some (.string s) := by
  constructor
  · intro told
    obtain ⟨found, there, isText⟩ := Option.bind_eq_some_iff.mp told
    obtain ⟨whole, rfl, inside⟩ := Option.bind_eq_some_iff.mp there
    cases whole with
    | object fields =>
        cases found with
        | string s =>
            cases isText
            exact ⟨fields, rfl, inside⟩
        | _ => cases isText
    | _ => cases inside
  · rintro ⟨fields, rfl, found⟩
    simp [Field.text?, Field.of?, HostValue.get?, found, HostValue.asString?]

/-- Two texts in an object are taken as two texts are. -/
theorem ofHostValue_texts (hasKey : Field.key.text? value = some key)
    (hasRegion : Field.region.text? value = some region) : ofHostValue value = ofTexts key region := by
  obtain ⟨fields, rfl, foundKey⟩ := text?_eq_some.mp hasKey
  obtain ⟨_, same, foundRegion⟩ := text?_eq_some.mp hasRegion
  cases same
  have foundKey : Dict.get? "key" fields = some (.string key) := foundKey
  have foundRegion : Dict.get? "region" fields = some (.string region) := foundRegion
  simp [ofHostValue, present?, foundKey, foundRegion, HostValue.asString?]

theorem ofHostValue_eq_ok :
    ofHostValue value = .ok c ↔ Field.key.text? value = some c.key ∧ Field.region.text? value = some c.region := by
  constructor
  · intro taken
    have checked := ofHostValue_checked value
    cases failing : Check.failing? value with
    | some check =>
        rw [failing] at checked
        rw [checked] at taken
        cases taken
    | none =>
        rw [failing] at checked
        obtain ⟨key, region, hasKey, hasRegion, same, -, -⟩ := checked
        rw [same, ofTexts_eq_ok] at taken
        rw [taken.1, taken.2]
        exact ⟨hasKey, hasRegion⟩
  · rintro ⟨hasKey, hasRegion⟩
    rw [ofHostValue_texts hasKey hasRegion]
    exact ofTexts_eq_ok.mpr ⟨rfl, rfl⟩

end SpokenIntent.Credentials
