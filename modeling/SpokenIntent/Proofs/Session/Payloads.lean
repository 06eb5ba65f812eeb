import SpokenIntent.Proofs.Json.Compact
import SpokenIntent.Proofs.Vocabulary.Commands
import SpokenIntent.Session.Payload

/-!
What the payload of a final hypothesis tells. Its matches come in the order of the entities' names, whatever the
order in which the engine went through them; and from its JSON all that a match has room for can be read again:
the text, the intent as soon as there is an entity, and every entity that is not called `id` or `text`.
-/

namespace SpokenIntent

/-! ### Payloads as text -/

theorem IntentMatch.plain (m : IntentMatch) (depth : Nat) : Json.Plain (depth + 1) m.toJson := by
  apply Json.plain_texts
  intro member here
  rcases List.mem_append.mp here with entity | fixed
  · rcases List.mem_map.mp entity with ⟨value, -, rfl⟩
    exact ⟨value, rfl⟩
  · simp only [List.mem_cons, List.not_mem_nil, or_false] at fixed
    rcases fixed with rfl | rfl
    · exact ⟨m.id, rfl⟩
    · exact ⟨m.text, rfl⟩

namespace Payload

/-- A payload has no numbers, and nothing in it stands deeper than the members of a match. -/
theorem plain (p : Payload) (depth : Nat) : Json.Plain (depth + 3) p.toJson := by
  cases p with
  | session p =>
      apply Json.plain_texts
      simp
  | canceled p =>
      apply Json.plain_texts
      intro member here
      rcases List.mem_append.mp here with fixed | given
      · simp only [List.mem_cons, List.not_mem_nil, or_false] at fixed
        rcases fixed with rfl | rfl
        · exact ⟨p.errorDetails, rfl⟩
        · exact ⟨p.reason.name, rfl⟩
      · rcases List.mem_map.mp given with ⟨code, -, rfl⟩
        exact ⟨code, rfl⟩
  | recognizing p =>
      apply Json.plain_texts
      simp
  | recognized p =>
      intro member here
      simp only [List.mem_cons, List.not_mem_nil, or_false] at here
      rcases here with rfl | rfl
      · exact Json.plain_string _ p.text
      · intro item listed
        rcases List.mem_map.mp listed with ⟨m, -, rfl⟩
        exact m.plain depth

/-- The text of a payload is read as its JSON. -/
theorem parse_text (p : Payload) : Json.parse p.text = .ok p.toJson :=
  Json.parse_compact (p.plain 124)

end Payload

/-! ### Matches -/

namespace IntentMatch

/-- How a match is written: its intent and the text, and its entity unless one of them has its name. -/
structure Written (m : IntentMatch) (members : List (String × Json)) : Prop where
  once : (members.map Prod.fst).Nodup
  mem_iff : ∀ name value, (name, value) ∈ members ↔
    name = "id" ∧ value = .string m.id ∨ name = "text" ∧ value = .string m.text ∨
      name = m.entity ∧ value = .string m.value ∧ m.entity ≠ "id" ∧ m.entity ≠ "text"

theorem isReserved_iff {name : String} : isReserved name ↔ name = "id" ∨ name = "text" := by
  simp [isReserved]

theorem toJson_written (m : IntentMatch) : ∃ members, m.toJson = .object members ∧ m.Written members := by
  refine ⟨_, rfl, ?_⟩
  by_cases taken : isReserved m.entity
  · have names := isReserved_iff.mp taken
    constructor
    · simp [entityValue?, taken]
    · intro name value
      simp only [entityValue?, taken, ↓reduceIte, Option.toList_none, List.map_nil, List.nil_append,
        List.mem_cons, Prod.mk.injEq, List.not_mem_nil, or_false]
      tauto
  · have names := mt isReserved_iff.mpr taken
    rw [not_or] at names
    constructor
    · simp [entityValue?, taken, names]
    · intro name value
      simp only [entityValue?, taken, Bool.false_eq_true, ↓reduceIte, Option.toList_some, List.map_cons, List.map_nil,
        List.cons_append, List.nil_append, List.mem_cons, Prod.mk.injEq, List.not_mem_nil, or_false]
      tauto

theorem entityValue?_eq_some {m : IntentMatch} {members : List (String × Json)} (written : m.Written members)
    {value : String} : m.entityValue? = some value ↔
      m.entity ≠ "id" ∧ m.entity ≠ "text" ∧ (m.entity, .string value) ∈ members := by
  rw [written.mem_iff, entityValue?]
  by_cases taken : isReserved m.entity
  · have names := isReserved_iff.mp taken
    simp only [taken, ↓reduceIte, reduceCtorEq, false_iff]
    tauto
  · have names := mt isReserved_iff.mpr taken
    rw [not_or] at names
    simp [taken, names, eq_comm]

end IntentMatch

/-! ### Payloads of final hypotheses -/

/-- The payload of a final hypothesis, built from its snapshot. -/
def Recognition.payload (r : Recognition) : RecognizedPayload := (Snapshot.capture r).toPayload

namespace Recognition
variable {r : Recognition}

theorem payload_text (r : Recognition) : r.payload.text = r.text := rfl

theorem payload_matches (r : Recognition) :
    r.payload.intentMatches.map (fun m => (m.entity, m.value)) = Dict.ofList r.entities := by
  simp only [payload, Snapshot.toPayload, Snapshot.capture, List.map_map]
  exact List.map_id _

/-- One match for each entity. -/
theorem payload_perm (once : (r.entities.map Prod.fst).Nodup) :
    (r.payload.intentMatches.map fun m => (m.entity, m.value)).Perm r.entities := by
  rw [payload_matches]
  exact Dict.ofList_perm once

theorem mem_payload {m : IntentMatch} (member : m ∈ r.payload.intentMatches) : m.id = r.intentId ∧ m.text = r.text := by
  rcases List.mem_map.mp member with ⟨_, -, rfl⟩
  exact ⟨rfl, rfl⟩

theorem payload_ascending (r : Recognition) :
    r.payload.intentMatches.Pairwise fun m m' => m.entity < m'.entity := by
  rw [payload, Snapshot.toPayload, List.pairwise_map]
  exact Dict.sorted_ofList r.entities

theorem payload_order (once : (r.entities.map Prod.fst).Nodup) {order : List (String × String)}
    (same : order.Perm r.entities) : payload { r with entities := order } = r.payload := by
  rw [payload, payload, Snapshot.capture, Snapshot.capture, Dict.ofList_eq_of_perm once same]

end Recognition

/-! ### Reading payloads again -/

namespace Json

def text? : Json → Option String
  | .string s => some s
  | _ => none

def items : Json → List Json
  | .array items => items
  | _ => []

def members : Json → List (String × Json)
  | .object members => members
  | _ => []

end Json

/-- What can be told of a final hypothesis by its payload: its text, its intent if there is an entity at all, and
the entities whose names are not taken. -/
structure Gist where
  text : String
  intentId : Option String
  entities : Dict String
  deriving DecidableEq

def Recognition.gist (r : Recognition) : Gist where
  text := r.text
  intentId := if r.entities.isEmpty then none else some r.intentId
  entities := CommandTable.unreserved (Dict.ofList r.entities)

namespace Gist

/-- The entity of a match: whatever is not one of its fixed fields. -/
def entity (item : Json) : List (String × String) :=
  item.members.filterMap fun m =>
    if IntentMatch.isReserved m.1 then none else m.2.text?.map fun value => (m.1, value)

/-- What a payload tells that has been written as JSON. -/
def ofJson (payload : Json) : Option Gist :=
  let items := ((payload.get? "intentMatches").map Json.items).getD []
  ((payload.get? "text").bind Json.text?).map fun text =>
    ⟨text, (items.head?.bind fun item => item.get? "id").bind Json.text?, Dict.ofList (items.flatMap entity)⟩

theorem entity_toJson (m : IntentMatch) :
    entity m.toJson = (m.entityValue?.map fun value => (m.entity, value)).toList := by
  have fixed : entity (.object [("id", .string m.id), ("text", .string m.text)]) = [] := rfl
  rw [IntentMatch.toJson, IntentMatch.entityValue?]
  by_cases taken : IntentMatch.isReserved m.entity
  · simp only [taken, ↓reduceIte, Option.toList_none, List.map_nil, List.nil_append, fixed, Option.map_none]
  · rw [if_neg taken]
    change List.filterMap _ (_ :: _) = _
    rw [List.filterMap_cons, if_neg taken]
    exact congrArg _ fixed

theorem entities_toJson (ms : List IntentMatch) :
    Dict.ofList ((ms.map IntentMatch.toJson).flatMap entity) = CommandTable.entitiesOf ms := by
  rw [CommandTable.entitiesOf, List.filterMap_eq_flatMap_toList, List.flatMap_map]
  simp only [entity_toJson]

/-- The first match names the intent. -/
theorem intent_toJson (r : Recognition) (once : (r.entities.map Prod.fst).Nodup) :
    ((r.payload.intentMatches.map IntentMatch.toJson).head?.bind (Json.get? "id")).bind Json.text? =
      r.gist.intentId := by
  have empty : r.payload.intentMatches.isEmpty = r.entities.isEmpty := by
    rw [← (Recognition.payload_perm once).isEmpty_eq, List.isEmpty_map]
  rw [Recognition.gist, ← empty]
  cases found : r.payload.intentMatches with
  | nil => rfl
  | cons m ms =>
      have intent : m.id = r.intentId := (Recognition.mem_payload (found ▸ List.mem_cons_self)).1
      have fixed : m.toJson.get? "id" = some (.string m.id) := by
        simp [IntentMatch.toJson, Json.get?, Dict.get?_ofList, Dict.get?]
      simp [fixed, intent, Json.text?]

/-- A payload that has been written tells what can be told. -/
theorem ofJson_payload (r : Recognition) (once : (r.entities.map Prod.fst).Nodup) :
    ofJson r.payload.toJson = some r.gist := by
  have text : r.payload.toJson.get? "text" = some (.string r.text) := by
    simp [RecognizedPayload.toJson, Json.get?, Dict.get?_ofList, Dict.get?, Recognition.payload_text]
  have items : r.payload.toJson.get? "intentMatches" =
      some (.array (r.payload.intentMatches.map IntentMatch.toJson)) := by
    simp [RecognizedPayload.toJson, Json.get?, Dict.get?_ofList, Dict.get?]
  have entities : CommandTable.entitiesOf r.payload.intentMatches = r.gist.entities :=
    CommandTable.entitiesOf_payload (Snapshot.capture r) (Dict.sorted_ofList r.entities)
  simp only [ofJson, text, items, Option.map_some, Option.getD_some, Json.items, Option.bind_some, Json.text?,
    intent_toJson r once, entities_toJson, entities]
  rfl

/-- Of hypotheses with the same gist the text is the same, the intent if there are entities, and every entity
whose name is not taken. -/
theorem same_hypothesis {r r' : Recognition} (once : (r.entities.map Prod.fst).Nodup)
    (once' : (r'.entities.map Prod.fst).Nodup) (same : r'.gist = r.gist) :
    r'.text = r.text ∧ (r.entities ≠ [] → r'.intentId = r.intentId) ∧
    ∀ name value, name ≠ "id" → name ≠ "text" → ((name, value) ∈ r'.entities ↔ (name, value) ∈ r.entities) := by
  simp only [Recognition.gist, Gist.mk.injEq] at same
  rcases same with ⟨text, intent, entities⟩
  refine ⟨text, ?_, ?_⟩
  · intro some
    rw [if_neg (mt List.isEmpty_iff.mp some)] at intent
    split at intent
    · cases intent
    · exact Option.some.inj intent
  · intro name value notId notText
    have free : IntentMatch.isReserved name = false := by simp [IntentMatch.isReserved, notId, notText]
    have known (d : Dict String) : (name, value) ∈ CommandTable.unreserved d ↔ (name, value) ∈ d := by
      simp [CommandTable.unreserved, free]
    rw [← Dict.mem_ofList_of_nodup once', ← Dict.mem_ofList_of_nodup once, ← known (Dict.ofList r'.entities),
      entities, known]

end Gist

/-! ### What a payload tells -/

namespace Recognition

/-- A payload that lists each entity once, in the order of their names. -/
structure Lists (r : Recognition) (p : RecognizedPayload) : Prop where
  text : p.text = r.text
  each : (p.intentMatches.map fun m => (m.entity, m.value)).Perm r.entities
  ascending : p.intentMatches.Pairwise fun m m' => m.entity < m'.entity
  about : ∀ m ∈ p.intentMatches, m.id = r.intentId ∧ m.text = r.text

/-- The payload of a final hypothesis does not depend on the order in which its entities come. It lists each of
them once, in the order of their names, and as JSON it tells all that a match has room for: hypotheses with the
same JSON, or the same text of it, have the same gist. -/
theorem payload_canonical (r : Recognition) (once : (r.entities.map Prod.fst).Nodup) :
    (∀ order : List (String × String), order.Perm r.entities →
      payload { r with entities := order } = r.payload) ∧
    r.Lists r.payload ∧
    (∀ m ∈ r.payload.intentMatches, ∃ members, m.toJson = .object members ∧ m.Written members ∧
      ∀ value, m.entityValue? = some value ↔
        m.entity ≠ "id" ∧ m.entity ≠ "text" ∧ (m.entity, .string value) ∈ members) ∧
    Json.parse (EngineEvent.recognized r).payload.text = .ok r.payload.toJson ∧
    Gist.ofJson r.payload.toJson = some r.gist ∧
    ∀ r' : Recognition, (r'.entities.map Prod.fst).Nodup →
      r'.payload.toJson = r.payload.toJson ∨
        (EngineEvent.recognized r').payload.text = (EngineEvent.recognized r).payload.text →
      r'.text = r.text ∧ (r.entities ≠ [] → r'.intentId = r.intentId) ∧
      ∀ name value, name ≠ "id" → name ≠ "text" →
        ((name, value) ∈ r'.entities ↔ (name, value) ∈ r.entities) := by
  have text (r : Recognition) : Json.parse (EngineEvent.recognized r).payload.text = .ok r.payload.toJson :=
    Payload.parse_text (.recognized r.payload)
  have told := Gist.ofJson_payload r once
  refine ⟨fun order same => payload_order once same, ?_, ?_, text r, told, ?_⟩
  · exact ⟨rfl, payload_perm once, payload_ascending r, fun m member => mem_payload member⟩
  · intro m member
    rcases m.toJson_written with ⟨members, json, written⟩
    exact ⟨members, json, written, fun value => IntentMatch.entityValue?_eq_some written⟩
  · intro r' once' same
    -- the text leads back to the JSON, and the JSON to the gist
    have json : r'.payload.toJson = r.payload.toJson := by
      rcases same with json | texts
      · exact json
      · exact Except.ok.inj ((text r').symm.trans (texts ▸ text r))
    have gists : some r'.gist = some r.gist := by
      rw [← Gist.ofJson_payload r' once', json, told]
    exact Gist.same_hypothesis once once' (Option.some.inj gists)

/-- Of the names here one is empty, and one is taken. -/
theorem taken_name_shadowed :
    let r : Recognition := ⟨"a \"b\"", "Go", [("size", "L"), ("id", "x"), ("", "é")]⟩
    r.gist = ⟨"a \"b\"", some "Go", [("", "é"), ("size", "L")]⟩ ∧
    Gist.ofJson (payload { r with entities := r.entities.reverse }).toJson = some r.gist ∧
    Json.parse (EngineEvent.recognized r).payload.text = .ok r.payload.toJson := by
  intro r
  have once : (r.entities.map Prod.fst).Nodup := by decide
  rcases payload_canonical r once with ⟨order, -, -, text, told, -⟩
  rw [order r.entities.reverse (List.reverse_perm r.entities)]
  exact ⟨by decide +kernel, told, text⟩

end Recognition

end SpokenIntent
