import SpokenIntent.Proofs.Credentials.Checks
import SpokenIntent.Proofs.Host.Values
import SpokenIntent.Proofs.Json.Compact
import SpokenIntent.Proofs.Json.Members

/-!
The ways in which credentials come. Two texts, an object of the host, JSON text and environment variables lead to the
same credentials, or to the same complaint; and JSON text is good for credentials where the value that it denotes is.
-/

namespace SpokenIntent.Credentials

open Json Text

/-! ### JSON text -/

namespace Draft

/-- What a member does to a draft: nothing if it is none of the two, and neither may come twice. -/
def take (d : Draft) : String × Json → Except Fault Draft
  | (name, x) =>
    if name = "key" then
      if d.key.isSome then .error .unfit else (optionalText x).map fun v => { d with key := some v }
    else if name = "region" then
      if d.region.isSome then .error .unfit else (optionalText x).map fun v => { d with region := some v }
    else .ok d

theorem take_steps (clock : List Char) (depth : Nat) : Steps (readValue clock depth) shape.member take := by
  intro cs x rest told d name
  obtain ⟨key, region⟩ := d
  have passed := passAny_value told
  have asked := readOptional_value told
  by_cases isKey : name = "key"
  · subst isKey
    have known : shape.fields.find? (·.name == "key") = shape.fields[0]? := by simp [shape]
    rw [Shape.member, known]
    cases key with
    | some k => rfl
    | none =>
        simp only [shape, take, List.getElem?_cons_zero, Except.bind, asked, Option.isSome_none, Bool.false_eq_true,
          ↓reduceIte]
        cases optionalText x <;> rfl
  · by_cases isRegion : name = "region"
    · subst isRegion
      have known : shape.fields.find? (·.name == "region") = shape.fields[1]? := by simp [shape]
      rw [Shape.member, known]
      cases region with
      | some r => rfl
      | none =>
          simp only [shape, take, List.getElem?_cons_succ, List.getElem?_cons_zero, Except.bind, asked, isKey,
            Option.isSome_none, Bool.false_eq_true, ↓reduceIte]
          cases optionalText x <;> rfl
    · have unknown : shape.fields.find? (·.name == name) = none := by
        simp [shape, Ne.symm isKey, Ne.symm isRegion]
      rw [Shape.member, unknown]
      simp only [take, isKey, isRegion, Except.bind, passed, ↓reduceIte]
      rfl

/-- What the members say of a field: nothing, or what the one of that name says. -/
def said (name : String) (ms : List (String × Json)) : Except Fault (Option (Option String)) :=
  match Dict.get? name ms with
  | none => .ok none
  | some x => (optionalText x).map some

theorem said_of_not_mem {name : String} {ms : List (String × Json)} (absent : name ∉ ms.map Prod.fst) :
    said name ms = .ok none := by
  rw [← Dict.isSome_get?, Option.not_isSome_iff_eq_none] at absent
  rw [said, absent]

theorem said_cons (name : String) (m : String × Json) (ms : List (String × Json)) :
    said name (m :: ms) = if m.1 = name then (optionalText m.2).map some else said name ms := by
  rw [said, Dict.get?]
  split_ifs <;> rfl

theorem optionalText_eq_error {x : Json} {fault : Fault} (told : optionalText x = .error fault) : fault = .unfit := by
  cases x <;> cases told <;> rfl

theorem said_eq_error {name : String} {ms : List (String × Json)} {fault : Fault} (told : said name ms = .error fault) :
    fault = .unfit := by
  rw [said] at told
  split at told
  · cases told
  · next x _ =>
    cases text : optionalText x with
    | ok v =>
        rw [text] at told
        cases told
    | error fault' =>
        rw [text] at told
        cases told
        exact optionalText_eq_error text

/-- Where no field comes twice, the members may come in any order. -/
theorem foldlM_take (d : Draft) (ms : List (String × Json))
    (keyOnce : (ms.map Prod.fst).count "key" + d.key.toList.length ≤ 1)
    (regionOnce : (ms.map Prod.fst).count "region" + d.region.toList.length ≤ 1) :
    ms.foldlM take d =
      (said "key" ms).bind fun key => (said "region" ms).map fun region => ⟨key.or d.key, region.or d.region⟩ := by
  induction ms generalizing d with
  | nil => rfl
  | cons m ms ih =>
      obtain ⟨name, x⟩ := m
      obtain ⟨key, region⟩ := d
      rw [List.map_cons, List.count_cons] at keyOnce regionOnce
      rw [List.foldlM_cons, said_cons, said_cons]
      by_cases isKey : name = "key"
      · subst isKey
        have apart : ¬"key" = "region" := by decide
        simp only [BEq.rfl, ↓reduceIte] at keyOnce
        simp only [beq_iff_eq, apart, ↓reduceIte] at regionOnce
        obtain rfl : key = none := by
          cases key with
          | none => rfl
          | some k =>
              simp only [Option.toList_some, List.length_cons] at keyOnce
              omega
        -- The draft had nothing for it, and no later member has.
        have later : said "key" ms = .ok none := by
          apply said_of_not_mem
          rw [← List.count_eq_zero]
          omega
        simp only [take, apart, Option.isSome_none, Bool.false_eq_true, ↓reduceIte]
        cases optionalText x with
        | error fault => rfl
        | ok v =>
            simp only [Except.map, bind, Except.bind]
            rw [ih ⟨some v, region⟩ (by simpa using keyOnce) regionOnce, later]
            rfl
      · by_cases isRegion : name = "region"
        · subst isRegion
          simp only [beq_iff_eq, isKey, ↓reduceIte] at keyOnce
          simp only [BEq.rfl, ↓reduceIte] at regionOnce
          obtain rfl : region = none := by
            cases region with
            | none => rfl
            | some r =>
                simp only [Option.toList_some, List.length_cons] at regionOnce
                omega
          have later : said "region" ms = .ok none := by
            apply said_of_not_mem
            rw [← List.count_eq_zero]
            omega
          simp only [take, isKey, Option.isSome_none, Bool.false_eq_true, ↓reduceIte]
          cases text : optionalText x with
          | error fault =>
              -- Whichever of the two is found at fault first, it is the same fault.
              obtain rfl := optionalText_eq_error text
              cases other : said "key" ms with
              | error fault =>
                  obtain rfl := said_eq_error other
                  rfl
              | ok k => rfl
          | ok v =>
              simp only [Except.map, bind, Except.bind]
              rw [ih ⟨key, some v⟩ keyOnce (by simpa using regionOnce), later]
              cases said "key" ms <;> rfl
        · simp only [beq_iff_eq, isKey, isRegion, ↓reduceIte] at keyOnce regionOnce
          simp only [take, isKey, isRegion, ↓reduceIte]
          exact ih ⟨key, region⟩ keyOnce regionOnce

end Draft

theorem parse_eq_ok {text : String} {x : Json} (parsed : Json.parse text = .ok x) :
    ∃ rest, readValue text.toList maxDepth text.toList = .ok (x, rest) ∧ skipBlank rest = [] := by
  rw [parse, readDocument] at parsed
  split at parsed
  · cases parsed
  · next y rest read =>
    split_ifs at parsed with blank
    cases parsed
    exact ⟨rest, read, List.isEmpty_iff.mp blank⟩

/-- JSON text is read for what its two fields say, if it says them once. -/
theorem ofJsonText_object {text : String} {ms : List (String × Json)} (parsed : Json.parse text = .ok (.object ms))
    (keyOnce : (ms.map Prod.fst).count "key" ≤ 1) (regionOnce : (ms.map Prod.fst).count "region" ≤ 1) :
    ofJsonText text =
      ((Draft.said "key" ms).mapError .json).bind fun key =>
        ((Draft.said "region" ms).mapError .json).bind fun region =>
          (ofOptions key.join region.join).mapError .invalid := by
  obtain ⟨rest, read, blank⟩ := parse_eq_ok parsed
  obtain ⟨clock, depth, more, opening, object⟩ := readValue_object read
  have taken := object_steps (Draft.take_steps clock depth) object ⟨none, none⟩
  rw [Draft.foldlM_take ⟨none, none⟩ ms keyOnce regionOnce] at taken
  rw [ofJsonText, Shape.read, opening]
  simp only [Char.reduceEq, ↓reduceIte, taken]
  cases Draft.said "key" ms with
  | error fault => rfl
  | ok key =>
      cases Draft.said "region" ms with
      | error fault => rfl
      | ok region =>
          simp only [Except.bind, Except.map, Except.mapError, Option.or_none, blank]
          cases ofOptions key.join region.join <;> rfl

theorem Draft.said_eq_text {name s : String} {ms : List (String × Json)} :
    (∃ found, said name ms = .ok found ∧ found.join = some s) ↔ Dict.get? name ms = some (.string s) := by
  rw [said]
  cases Dict.get? name ms with
  | none => simp
  | some x => cases x <;> simp [optionalText, Except.map]

section
variable {text key region : String} {ms : List (String × Json)}

theorem ofJsonText_texts (parsed : Json.parse text = .ok (.object ms))
    (keyOnce : (ms.map Prod.fst).count "key" ≤ 1) (regionOnce : (ms.map Prod.fst).count "region" ≤ 1)
    (hasKey : Dict.get? "key" ms = some (.string key)) (hasRegion : Dict.get? "region" ms = some (.string region)) :
    ofJsonText text = (ofTexts key region).mapError .invalid := by
  rw [ofJsonText_object parsed keyOnce regionOnce, Draft.said, Draft.said, hasKey, hasRegion]
  rfl

theorem ofJsonText_eq_ok {c : Credentials} (parsed : Json.parse text = .ok (.object ms))
    (keyOnce : (ms.map Prod.fst).count "key" ≤ 1) (regionOnce : (ms.map Prod.fst).count "region" ≤ 1) :
    ofJsonText text = .ok c ↔
      Dict.get? "key" ms = some (.string c.key) ∧ Dict.get? "region" ms = some (.string c.region) := by
  rw [ofJsonText_object parsed keyOnce regionOnce, ← Draft.said_eq_text, ← Draft.said_eq_text]
  cases Draft.said "key" ms with
  | error fault => simp [Except.mapError, Except.bind]
  | ok k =>
      cases Draft.said "region" ms with
      | error fault => simp [Except.mapError, Except.bind]
      | ok r =>
          have both : (ofOptions k.join r.join).mapError TextError.invalid = .ok c ↔
              k.join = some c.key ∧ r.join = some c.region := by
            rw [← ofOptions_eq_ok]
            cases ofOptions k.join r.join <;> simp [Except.mapError]
          simpa [Except.mapError, Except.bind] using both

end

/-- A member that is not said again is what the value of the text has under that name. -/
theorem text?_ofJson (field : Field) {s : String} {ms : List (String × Json)}
    (once : (ms.map Prod.fst).count field.name ≤ 1) :
    field.text? (some (HostValue.ofJson (.object ms))) = some s ↔ Dict.get? field.name ms = some (.string s) := by
  have once' : ((HostValue.ofMembers ms).map Prod.fst).count field.name ≤ 1 := by
    rw [HostValue.ofMembers_eq_map, List.map_map]
    exact once
  have found : field.of? (some (HostValue.ofJson (.object ms))) = (Dict.get? field.name ms).map HostValue.ofJson := by
    rw [← HostValue.get?_ofMembers, ← Dict.get?_reverse_of_once once', ← Dict.get?_ofList]
    rfl
  rw [Field.text?, found]
  cases Dict.get? field.name ms with
  | none => simp
  | some x => cases x <;> simp [HostValue.ofJson, HostValue.ofFields, HostValue.asString?]

/-- Whichever way a key and a region come, they are kept as they are if neither is blank, and the first that is blank is
reported. JSON text that says neither of them twice is good for credentials where its value is, and for the same. Of
the checks on a host value the first that fails decides. -/
theorem ways_agree :
    (∀ key region : String,
      ((∃ c, ofTexts key region = .ok c ∧ c.key = key ∧ c.region = region) ↔
        isBlankText key = false ∧ isBlankText region = false) ∧
      (ofTexts key region = .error (.emptyValue "key") ↔ isBlankText key = true) ∧
      (ofTexts key region = .error (.emptyValue "region") ↔ isBlankText key = false ∧ isBlankText region = true) ∧
      (∀ fields : List (String × HostValue), Dict.get? "key" fields = some (.string key) →
        Dict.get? "region" fields = some (.string region) → ofHostValue (some (.object fields)) = ofTexts key region) ∧
      (∀ (text : String) (ms : List (String × Json)), Json.parse text = .ok (.object ms) →
        (ms.map Prod.fst).count "key" ≤ 1 → (ms.map Prod.fst).count "region" ≤ 1 →
        Dict.get? "key" ms = some (.string key) → Dict.get? "region" ms = some (.string region) →
        ofJsonText text = (ofTexts key region).mapError .invalid) ∧
      ∀ env : String → Option String, env keyVariable = some key → env regionVariable = some region →
        ofEnvironment env = ofTexts key region) ∧
    (∀ (text : String) (ms : List (String × Json)), Json.parse text = .ok (.object ms) →
      (ms.map Prod.fst).count "key" ≤ 1 → (ms.map Prod.fst).count "region" ≤ 1 →
      ∀ c, ofJsonText text = .ok c ↔ ofHostValue (some (HostValue.ofJson (.object ms))) = .ok c) ∧
    ∀ value : Option HostValue,
      ((∃ c, ofHostValue value = .ok c) ↔ Check.failing? value = none) ∧
      ∀ e, ofHostValue value = .error e ↔ ∃ check, Check.failing? value = some check ∧ check.error = e := by
  refine ⟨fun key region => ⟨?_, ?_, ?_, ?_, ?_, ?_⟩, ?_,
    fun value => ⟨ofHostValue_isOk, fun e => ofHostValue_eq_error⟩⟩
  · constructor
    · rintro ⟨c, -, rfl, rfl⟩
      exact ⟨c.key_filled, c.region_filled⟩
    · rintro ⟨keyFilled, regionFilled⟩
      exact ⟨⟨key, region, keyFilled, regionFilled⟩, ofTexts_eq_ok.mpr ⟨rfl, rfl⟩, rfl, rfl⟩
  · simp [ofTexts_eq_error]
  · simp [ofTexts_eq_error]
  · intro fields hasKey hasRegion
    exact ofHostValue_texts (text?_eq_some.mpr ⟨fields, rfl, hasKey⟩) (text?_eq_some.mpr ⟨fields, rfl, hasRegion⟩)
  · intro text ms parsed keyOnce regionOnce hasKey hasRegion
    exact ofJsonText_texts parsed keyOnce regionOnce hasKey hasRegion
  · intro env hasKey hasRegion
    rw [ofEnvironment, hasKey, hasRegion]
    rfl
  · intro text ms parsed keyOnce regionOnce c
    rw [ofJsonText_eq_ok parsed keyOnce regionOnce, ofHostValue_eq_ok, text?_ofJson .key keyOnce,
      text?_ofJson .region regionOnce]
    rfl

/-- A key that begins with a blank and is written with an escape, beside a member that nobody asks for. -/
theorem ways_agree_escaped :
    let ms : List (String × Json) :=
      [("note", .array [.null]), ("region", .string "r"), ("key", .string " \"k\"")]
    ofJsonText (Json.compact (.object ms)) = (ofTexts " \"k\"" "r").mapError .invalid ∧
      ofHostValue (some (HostValue.ofJson (.object ms))) = ofTexts " \"k\"" "r" ∧
      ofEnvironment (fun name => if name = keyVariable then some " \"k\"" else some "r") = ofTexts " \"k\"" "r" ∧
      ∀ c, ofJsonText (Json.compact (.object ms)) = .ok c ↔
        ofHostValue (some (HostValue.ofJson (.object ms))) = .ok c := by
  intro ms
  have parsed : Json.parse (Json.compact (.object ms)) = .ok (.object ms) :=
    parse_compact (by simp [ms, Plain, maxDepth])
  have keyOnce : (ms.map Prod.fst).count "key" ≤ 1 := by decide
  have regionOnce : (ms.map Prod.fst).count "region" ≤ 1 := by decide
  obtain ⟨ways, alike, -⟩ := ways_agree
  obtain ⟨-, -, -, byHost, byText, byEnvironment⟩ := ways " \"k\"" "r"
  exact ⟨byText _ ms parsed keyOnce regionOnce rfl rfl, byHost _ rfl rfl, byEnvironment _ rfl rfl,
    alike _ ms parsed keyOnce regionOnce⟩

end SpokenIntent.Credentials
