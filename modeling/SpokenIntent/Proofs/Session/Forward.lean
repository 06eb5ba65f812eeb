import SpokenIntent.Proofs.Json.Account
import SpokenIntent.Proofs.Session.Payloads
import SpokenIntent.Session.Forward

/-!
Payloads on their way out, and back in. A payload gives an account of itself that can always be taken down, so
a function of the host is always called, and with the value that the payload's text is read as. Payloads that
can be read at all are read as they were written.
-/

namespace SpokenIntent

open Json

/-! ### Accounts of payloads -/

theorem IntentMatch.account_told (m : IntentMatch) : m.account.told = .ok m.toJson := by
  rw [account, toJson]
  cases m.entityValue? <;> rfl

theorem IntentMatch.accounts_told (ms : List IntentMatch) :
    Account.toldItems (ms.map account) = .ok (ms.map toJson) := by
  induction ms with
  | nil => rfl
  | cons m ms ih =>
      rw [List.map_cons, Account.toldItems, account_told, ih]
      rfl

namespace Payload

theorem account_told (p : Payload) : p.account.told = .ok p.toJson := by
  cases p with
  | session p => rfl
  | canceled p =>
      rcases p with ⟨details, reason, code⟩
      cases code <;> rfl
  | recognizing p => rfl
  | recognized p =>
      have listed := IntentMatch.accounts_told p.intentMatches
      simp only [account, Account.record, List.map_cons, List.map_nil, Account.told, Account.toldEntries,
        Account.asKey, listed]
      rfl

end Payload

/-! ### Reading payloads -/

theorem CancelReason.ofName?_name (r : CancelReason) : ofName? r.name = some r := by
  cases r <;> rfl

theorem Json.reads_variant {α : Type} {variant? : String → Option α} {name : String} {x : α}
    (known : variant? name = some x) : Reads (readVariant variant?) (writeString name) x where
  opens := ⟨'"', _, rfl, by decide, fun _ => rfl⟩
  reads before rest blanks := by
    rw [readVariant, blanks, writeString, List.cons_append, List.append_assoc, List.singleton_append]
    simp [skipBlank, readText_escaped, known]

theorem SessionPayload.reads (p : SessionPayload) : Reads SessionPayload.read (write p.toJson) p := by
  have takes : Takes shape.member oneLine none [("sessionId", .string p.sessionId)] (some p.sessionId) :=
    .cons rfl ((reads_string p.sessionId).map some) (.nil _)
  rcases Shape.reads_compact takes with ⟨opens, reads⟩
  exact ⟨opens, fun before rest blanks => by rw [SessionPayload.read, toJson, reads before rest blanks]⟩

theorem RecognizingPayload.reads (p : RecognizingPayload) : Reads RecognizingPayload.read (write p.toJson) p := by
  have takes : Takes shape.member oneLine none [("text", .string p.text)] (some p.text) :=
    .cons rfl ((reads_string p.text).map some) (.nil _)
  rcases Shape.reads_compact takes with ⟨opens, reads⟩
  exact ⟨opens, fun before rest blanks => by rw [RecognizingPayload.read, toJson, reads before rest blanks]⟩

namespace CanceledPayload

/-- The code is read if it was written. -/
theorem code_takes (details : Option String) (reason : Option CancelReason) (code : Option String) :
    Takes shape.member oneLine ⟨details, reason, none⟩ (code.toList.map fun code => ("errorCode", .string code))
      ⟨details, reason, code.map some⟩ := by
  cases code with
  | none => exact .nil _
  | some code =>
      have given : Reads (readOptional readString) (write (.string code)) (some code) :=
        reads_some (reads_string code) fun more same => by cases same
      exact .cons rfl (given.map fun c => (⟨details, reason, some c⟩ : Draft)) (.nil _)

theorem reads (p : CanceledPayload) : Reads CanceledPayload.read (write p.toJson) p := by
  rcases p with ⟨details, reason, code⟩
  have takes : Takes shape.member oneLine ⟨none, none, none⟩
      ([("errorDetails", .string details), ("reason", .string reason.name)] ++
        code.toList.map fun code => ("errorCode", .string code)) ⟨some details, some reason, code.map some⟩ :=
    .cons rfl ((reads_string details).map fun details => (⟨some details, none, none⟩ : Draft)) <|
    .cons rfl ((reads_variant reason.ofName?_name).map fun reason => (⟨some details, some reason, none⟩ : Draft)) <|
    code_takes (some details) (some reason) code
  rcases Shape.reads_compact takes with ⟨opens, reads⟩
  refine ⟨opens, fun before rest blanks => ?_⟩
  rw [CanceledPayload.read, toJson, reads before rest blanks]
  cases code <;> rfl

end CanceledPayload

namespace Payload

/-- A kind of payloads that can be read: each is read as it was written, so that to write what has been read and
read it again makes no difference. -/
structure ReadBack {P : Type} (reader : Reader P) (wrap : P → Payload) : Prop where
  read : ∀ p, readDocument reader (wrap p).text = .ok p
  again : ∀ text, ((readDocument reader text).bind fun p => readDocument reader (wrap p).text) =
    readDocument reader text

theorem ReadBack.of_reads {P : Type} {reader : Reader P} {wrap : P → Payload}
    (reads : ∀ p, Reads reader (write (wrap p).toJson) p) : ReadBack reader wrap := by
  have read (p : P) : readDocument reader (wrap p).text = .ok p := by
    have found := (reads p).reads [] [] blanks_nil
    rw [List.nil_append, List.append_nil] at found
    simp only [readDocument, text, compact, String.toList_ofList, found]
    rfl
  refine ⟨read, fun text => ?_⟩
  cases readDocument reader text with
  | error fault => rfl
  | ok p => exact read p

/-- What a function of the host is called with is what the text of a payload says, so nothing is ever dropped on
the way; and the payloads of sessions, of partial hypotheses and of sessions given up are read as they were
written. -/
theorem text_and_value_agree :
    (∀ p : Payload, ∃ value, p.account.value = .ok value ∧ p.account.write = .ok p.text.toList ∧
      (parse p.text).map settled = .ok value ∧
      ∀ (σ τ : Type) (channel : Channel) (call : Json → Work σ τ Unit), p.forward channel call = call value) ∧
    ReadBack SessionPayload.read .session ∧
    ReadBack RecognizingPayload.read .recognizing ∧
    ReadBack CanceledPayload.read .canceled := by
  refine ⟨fun p => ?_, .of_reads SessionPayload.reads, .of_reads RecognizingPayload.reads,
    .of_reads CanceledPayload.reads⟩
  rcases Account.taken_down p.account_told (p.plain 124) with ⟨written, value, read⟩
  refine ⟨p.toJson.settled, value, ?_, ?_, ?_⟩
  · rw [written, text, compact, String.toList_ofList]
  · rw [text, read]
    rfl
  · intro σ τ channel call
    rw [forward, value]

end Payload

end SpokenIntent
