import RecoveryAgent.Core.Builtins
import RecoveryAgent.Lib.Ends
import RecoveryAgent.Lib.Sha256

/-! Webhook payloads of any shape (`app/core/webhook_parser.py`, `app/core/webhook_security.py`).
The parsers are followed access by access, and each access has its condition: the shape of the
value under which it raises a `KeyError` or a `ValueError` at most.
-/

namespace RecoveryAgent

-----------------------------------------------------------------------------------------
-- Signatures
-----------------------------------------------------------------------------------------

/-- Text that `hmac.compare_digest` accepts. -/
def Ascii (text : String) : Prop := ∀ c ∈ text.toList, c.val < 128

instance (text : String) : Decidable (Ascii text) :=
  inferInstanceAs (Decidable (∀ c ∈ text.toList, c.val < 128))

/-- `hmac.compare_digest` of two texts. -/
def compareDigest (expected given : String) : Except PyError Bool :=
  if Ascii expected ∧ Ascii given then .ok (expected = given) else .error .typeError

/-- The signature of a body under the secret, in hexadecimal digits. -/
def expectedSignature (rawBody : List UInt8) (secret : String) : String :=
  String.ofList (Sha256.hexDigits (Sha256.hmac secret.toUTF8.toList rawBody) 64)

/-- `verify_webhook_signature`. -/
def verifyWebhookSignature (rawBody : List UInt8) (signatureHeader : Option String)
    (secret : String)
    : Except PyError Bool :=
  let header := signatureHeader.getD ""
  if secret = "" ∨ header = "" then .ok false
  else compareDigest (expectedSignature rawBody secret) header

-----------------------------------------------------------------------------------------
-- Parsers
-----------------------------------------------------------------------------------------

/-- `if refused: raise`. -/
def raiseIf (refused : Prop) [Decidable refused] (raised : PyError) : Except PyError Unit :=
  if refused then .error raised else .ok ()

/-- `value or {}`. -/
def Json.orEmpty (value : Json) : Json := if value.truthy then value else .obj []

/-- `value.encode("utf-8")`, as the text it encodes. -/
def Json.encode (value : Json) : Except PyError String :=
  match value with
  | .str text => .ok text
  | _ => .error .attributeError

/-- `datetime.fromtimestamp(n, tz=timezone.utc)`: the calendar ends before the platform's
`gmtime` does, and that before its `time_t`.
-/
def fromTimestamp (n : Int) : Except PyError Datetime :=
  if -62135596800 ≤ n ∧ n ≤ 253402300799 then .ok (seconds n)
  else if -67768040609740800 ≤ n ∧ n ≤ 67768036191676799 then
    .error (.valueError ("year " ++ toString (civilDate (n / 86400)).1 ++ " is out of range"))
  else if -9223372036854775808 ≤ n ∧ n ≤ 9223372036854775807 then .error .osError
  else .error .overflowError

namespace Payload

/-- `payload["payload"]["payment"]["entity"]`. -/
def paymentEntity (payload : Json) : Except PyError Json := do
  let body ← payload.item "payload"
  let payment ← body.item "payment"
  payment.item "entity"

/-- A failure event with the identifiers as the payload had them. -/
structure FailureEvent where
  caseId : Json
  paymentId : Json
  attemptNumber : Nat
  reasonCode : Json
  amount : Int
  receivedAt : Datetime
  mandateId : Json
  instrumentId : String
  errorReason : Json
  errorSource : Json
  errorStep : Json
  notes : List (String × Json)
  attemptNumber_pos : 1 ≤ attemptNumber
  amount_pos : 0 < amount
  paymentId_truthy : paymentId.truthy = true
  caseId_truthy : caseId.truthy = true

/-- The case and the attempt a failure is for. -/
def resolveAttempt (paymentId : Json) (existingCase : Option RecoveryCase)
    (attemptNumber : Option Nat)
    : Except PyError (Json × Nat) :=
  match existingCase, attemptNumber with
  | some case, some attempt =>
      if attempt < 1 then
        .error (.valueError ("attempt_number must be >= 1, got " ++ toString attempt))
      else .ok (.str case.caseId, attempt)
  | some _, none =>
      .error (.valueError "attempt_number must be provided when existing_case is given")
  | none, none => .ok (paymentId, 1)
  | none, some attempt =>
      if attempt = 1 then .ok (paymentId, 1)
      else .error (.valueError "attempt_number must be 1 when no existing_case is provided")

/-- `parse_payment_failed` of the payment's entity, with the validation of `__post_init__`. -/
def failureOf (payment : Json) (existingCase : Option RecoveryCase) (attemptNumber : Option Nat)
    : Except PyError FailureEvent := do
  let method ← payment.get "method"
  raiseIf (method.text? ≠ some "upi")
    (.valueErrorOf "parse_payment_failed only handles UPI payments; got method=" method.text?
      (". Non-UPI payment.failed events must be filtered before reaching this" ++ " parser."))
  let currency ← payment.get "currency"
  raiseIf (currency.text? ≠ some "INR")
    (.valueErrorOf "expected currency INR, got " currency.text? "")
  let paymentId ← payment.item "id"
  let amount ← pyInt (← payment.item "amount")
  raiseIf (amount ≤ 0) (.valueError ("amount_paise must be positive, got " ++ toString amount))
  let vpa ← payment.get "vpa"
  raiseIf (vpa.truthy = false)
    (.valueError "UPI payment.failed event missing 'vpa' — cannot derive instrument_id")
  let encoded ← vpa.encode
  let notes ← payment.get "notes"
  let mandateId ← notes.orEmpty.get "mandate_id"
  let notes ← notes.orEmpty.fields
  let reasonCode ← payment.get "error_code" (.str "")
  let errorReason ← payment.get "error_reason"
  let errorSource ← payment.get "error_source"
  let errorStep ← payment.get "error_step"
  let (caseId, attempt) ← resolveAttempt paymentId existingCase attemptNumber
  let createdAt ← pyInt (← payment.item "created_at")
  let receivedAt ← fromTimestamp createdAt
  if hn : attempt < 1 then
    throw (.valueError ("attempt_number must be >= 1, got " ++ toString attempt))
  else if ha : amount ≤ 0 then
    throw (.valueError ("amount must be positive integer paise, got " ++ toString amount))
  else if hp : paymentId.truthy = false then
    throw (.valueError "payment_id must not be empty")
  else if hc : caseId.truthy = false then
    throw (.valueError "case_id must not be empty")
  else
    return {
      caseId, paymentId, reasonCode, amount, receivedAt, mandateId, notes
      attemptNumber := attempt
      instrumentId := Sha256.hexdigest encoded
      errorReason, errorSource, errorStep
      attemptNumber_pos := attempt_pos_of_checked hn
      amount_pos := amount_pos_of_checked ha
      paymentId_truthy := by simpa using hp
      caseId_truthy := by simpa using hc
    }

/-- `parse_payment_failed`. -/
def parsePaymentFailed (payload : Json) (existingCase : Option RecoveryCase)
    (attemptNumber : Option Nat)
    : Except PyError FailureEvent := do
  let payment ← paymentEntity payload
  failureOf payment existingCase attemptNumber

/-- A success event with the payment as the payload had it. -/
structure SuccessEvent where
  caseId : String
  paymentId : Json
  amount : Int
  capturedAt : Datetime
  amount_pos : 0 < amount

/-- `parse_payment_captured` of the payment's entity, with the validation of `__post_init__`. -/
def successOf (payment : Json) (case : RecoveryCase) : Except PyError SuccessEvent := do
  let paymentId ← payment.item "id"
  let amount ← pyInt (← payment.item "amount")
  raiseIf (amount ≤ 0) (.valueError ("amount_paise must be positive, got " ++ toString amount))
  let createdAt ← pyInt (← payment.item "created_at")
  let capturedAt ← fromTimestamp createdAt
  if paymentId.truthy = false then throw (.valueError "payment_id must not be empty")
  else if ha : amount ≤ 0 then
    throw (.valueError ("amount must be positive integer paise, got " ++ toString amount))
  else
    return {
      caseId := case.caseId, paymentId, amount, capturedAt
      amount_pos := amount_pos_of_checked ha
    }

/-- `parse_payment_captured`. -/
def parsePaymentCaptured (payload : Json) (case : RecoveryCase) : Except PyError SuccessEvent := do
  let payment ← paymentEntity payload
  successOf payment case

end Payload

-----------------------------------------------------------------------------------------
-- What each access raises
-----------------------------------------------------------------------------------------

/-- `KeyError` and `ValueError`, as the parsers' callers catch them. -/
def PyError.isMalformed : PyError → Bool
  | .keyError _ => true
  | .valueError _ => true
  | .valueErrorOf .. => true
  | _ => false

/-- `ValueError`. -/
def PyError.isValueError : PyError → Bool
  | .valueError _ => true
  | .valueErrorOf .. => true
  | _ => false

/-- The computation raises nothing that the parsers' callers do not catch. -/
def Tame {α : Type} (result : Except PyError α) : Prop :=
  result.RaisesOnly fun raised => raised.isMalformed = true

namespace Json

def IsObject (value : Json) : Prop := ∃ fields, value = .obj fields

/-- Every key of the path is looked up in a dictionary, and what the path leads to, if it leads
anywhere, has the shape.
-/
def At (shape : Json → Prop) : List String → Json → Prop
  | [], value => shape value
  | key :: path, value =>
      ∃ fields, value = .obj fields ∧ ∀ found, fields.lookup key = some found → At shape path found

/-- A value that `int` turns into a number, or refuses as text or as not a number. -/
def Countable : Json → Prop
  | .null => False
  | .arr _ => False
  | .obj _ => False
  | .float (.infinite _) => False
  | _ => True

/-- The value of a key, or null. -/
def field (fields : List (String × Json)) (key : String) : Json := (fields.lookup key).getD .null

theorem At.congr {shape shape' : Json → Prop} (same : ∀ value, shape value ↔ shape' value)
    {path : List String} {value : Json}
    : value.At shape path ↔ value.At shape' path := by
  induction path generalizing value with
  | nil => exact same value
  | cons key path ih =>
      refine exists_congr fun fields => and_congr_right fun _ => forall_congr' fun found => ?_
      exact imp_congr_right fun _ => ih

/-- A key leads to a text exactly where the text is its value. -/
theorem text?_field {fields : List (String × Json)} {key text : String}
    : ((fields.lookup key).getD .null).text? = some text
      ↔ fields.lookup key = some (.str text) := by
  cases fields.lookup key with
  | none => simp [text?]
  | some value => cases value <;> simp [text?]

end Json

section Accesses

variable {α : Type} {value : Json} {key : String}

theorem tame_ok {returned : α} : Tame (.ok returned) := trivial

theorem tame_ok_bind {β : Type} {returned : β} {next : β → Except PyError α}
    : Tame (.ok returned >>= next) ↔ Tame (next returned) := Iff.rfl

theorem tame_error {raised : PyError}
    : Tame (.error raised : Except PyError α) ↔ raised.isMalformed = true := Iff.rfl

/-- A sequence is tame when its first part is, and the second where it is reached. -/
theorem tame_bind {β : Type} {first : Except PyError β} {next : β → Except PyError α}
    : Tame (first >>= next) ↔ Tame first ∧ ∀ value, first = .ok value → Tame (next value) :=
  Except.raisesOnly_bind

theorem tame_item_obj {fields : List (String × Json)} {next : Json → Except PyError α}
    : Tame ((Json.obj fields).item key >>= next)
      ↔ ∀ found, fields.lookup key = some found → Tame (next found) := by
  cases looked : fields.lookup key with
  | none =>
      have raised : (Json.obj fields).item key = .error (.keyError key) := by
        simp [Json.item, looked]
      rw [raised, tame_bind]
      simp [tame_error, PyError.isMalformed]
  | some found =>
      have returned : (Json.obj fields).item key = .ok found := by simp [Json.item, looked]
      rw [returned, tame_bind]
      simp [tame_ok]

/-- `value[key]` needs a dictionary. -/
theorem tame_item_bind {next : Json → Except PyError α}
    : Tame (value.item key >>= next)
      ↔ ∃ fields, value = .obj fields ∧ ∀ found, fields.lookup key = some found → Tame (next found)
    := by
  cases value with
  | obj fields => simp [tame_item_obj]
  | _ => simp [tame_bind, Json.item, tame_error, PyError.isMalformed]

theorem tame_get_obj {fields : List (String × Json)} {default : Json}
    {next : Json → Except PyError α}
    : Tame ((Json.obj fields).get key default >>= next)
      ↔ Tame (next ((fields.lookup key).getD default)) := Iff.rfl

/-- `value.get(key)` needs a dictionary. -/
theorem tame_get_bind {default : Json} {next : Json → Except PyError α}
    : Tame (value.get key default >>= next)
      ↔ ∃ fields, value = .obj fields ∧ Tame (next ((fields.lookup key).getD default)) := by
  cases value with
  | obj fields => simp [tame_get_obj]
  | _ => simp [tame_bind, Json.get, tame_error, PyError.isMalformed]

/-- A check that raises a `ValueError` is passed before the rest matters. -/
theorem tame_raiseIf_bind {refused : Prop} [Decidable refused] {raised : PyError}
    (malformed : raised.isMalformed = true) {next : Except PyError α}
    : Tame (raiseIf refused raised >>= fun _ => next) ↔ (¬refused → Tame next) := by
  rw [tame_bind]
  unfold raiseIf
  by_cases stopped : refused
  · simp [stopped, tame_error, malformed]
  · simp [stopped, tame_ok]

/-- Only text has an encoding. -/
theorem tame_encode_bind {next : String → Except PyError α}
    : Tame (value.encode >>= next) ↔ ∃ text, value = .str text ∧ Tame (next text) := by
  rw [tame_bind]
  cases value with
  | str text => simp [Json.encode, tame_ok]
  | _ => simp [Json.encode, tame_error, PyError.isMalformed]

/-- Text is a number, or refused with a `ValueError`. -/
theorem tame_parseInt (text : String) : Tame (parseInt text) := by
  unfold parseInt
  dsimp only
  split
  · exact tame_error.mpr rfl
  · next digits rest _ =>
      unfold intOf
      by_cases long : 4300 < digits.length
      · rw [if_pos long]
        exact tame_error.mpr rfl
      · rw [if_neg long]
        dsimp only
        split
        · exact tame_ok
        · exact tame_error.mpr rfl

theorem tame_pyInt : Tame (pyInt value) ↔ value.Countable := by
  cases value with
  | float x => cases x <;> simp [pyInt, Json.Countable, tame_ok, tame_error, PyError.isMalformed]
  | str text => exact iff_of_true (tame_parseInt text) trivial
  | _ => simp [pyInt, Json.Countable, tame_ok, tame_error, PyError.isMalformed]

/-- Seconds that the platform's `gmtime` takes. -/
def OnPlatform (n : Int) : Prop := -67768040609740800 ≤ n ∧ n ≤ 67768036191676799

theorem tame_fromTimestamp {n : Int} : Tame (fromTimestamp n) ↔ OnPlatform n := by
  unfold fromTimestamp OnPlatform
  split
  · simp only [tame_ok, true_iff]
    omega
  split
  · next inside => simp [tame_error, PyError.isMalformed, inside]
  split
  · next outside _ => simpa [tame_error, PyError.isMalformed] using outside
  · next outside _ => simpa [tame_error, PyError.isMalformed] using outside

end Accesses

namespace Payload

/-- The keys that lead to the payment. -/
def entityPath : List String := ["payload", "payment", "entity"]

theorem tame_paymentEntity_bind {α : Type} {payload : Json} {next : Json → Except PyError α}
    : Tame (paymentEntity payload >>= next)
      ↔ payload.At (fun entity => Tame (next entity)) entityPath := by
  unfold paymentEntity
  simp only [bind_assoc, tame_item_bind]
  rfl

/-- The creation time of a payment, where it is reached. -/
def DatedShape (fields : List (String × Json)) : Prop :=
  ∀ created, fields.lookup "created_at" = some created
    → created.Countable ∧ ∀ n, pyInt created = .ok n → OnPlatform n

/-- The attempt number is one that the parser takes, with a case or without. -/
def Resolves : Option RecoveryCase → Option Nat → Prop
  | some _, some attempt => 1 ≤ attempt
  | some _, none => False
  | none, none => True
  | none, some attempt => attempt = 1

/-- The fields of a failed payment have the shapes with which they are used, as far as the
parser gets before it refuses them.
-/
def FailedShape (existingCase : Option RecoveryCase) (attemptNumber : Option Nat)
    (fields : List (String × Json))
    : Prop :=
  fields.lookup "method" = some (.str "upi")
  → fields.lookup "currency" = some (.str "INR")
  → ∀ paymentId, fields.lookup "id" = some paymentId
    → ∀ amount, fields.lookup "amount" = some amount
      → amount.Countable
        ∧ ∀ n, pyInt amount = .ok n → 0 < n
          → (Json.field fields "vpa").truthy = true
          → (∃ vpa, Json.field fields "vpa" = .str vpa)
            ∧ (Json.field fields "notes").orEmpty.IsObject
            ∧ (Resolves existingCase attemptNumber → DatedShape fields)

theorem tame_dated {α : Type} {fields : List (String × Json)} {next : Datetime → Except PyError α}
    (rest : ∀ receivedAt, Tame (next receivedAt))
    : Tame (do
          let created ← (Json.obj fields).item "created_at"
          let createdAt ← pyInt created
          let receivedAt ← fromTimestamp createdAt
          next receivedAt)
      ↔ DatedShape fields := by
  rw [tame_item_obj]
  refine forall₂_congr fun created _ => ?_
  rw [tame_bind, tame_pyInt]
  refine and_congr_right fun _ => forall₂_congr fun n _ => ?_
  rw [tame_bind, tame_fromTimestamp]
  exact and_iff_left fun receivedAt _ => rest receivedAt

/-- The attempt is refused with a `ValueError`, or resolved. -/
theorem tame_resolveAttempt {paymentId : Json} {existingCase : Option RecoveryCase}
    {attemptNumber : Option Nat}
    : Tame (resolveAttempt paymentId existingCase attemptNumber)
      ∧ ((∃ resolved, resolveAttempt paymentId existingCase attemptNumber = .ok resolved)
        ↔ Resolves existingCase attemptNumber) := by
  unfold resolveAttempt Resolves
  cases existingCase with
  | some case =>
      cases attemptNumber with
      | none => simp [tame_error, PyError.isMalformed]
      | some attempt =>
          by_cases first : attempt < 1
          · simp [first, tame_error, PyError.isMalformed]
          · simp [first, tame_ok]
            omega
  | none =>
      cases attemptNumber with
      | none => simp [tame_ok]
      | some attempt =>
          by_cases first : attempt = 1
          · simp [first, tame_ok]
          · simp [first, tame_error, PyError.isMalformed]

/-- The failure of a dictionary is parsed without another error exactly where it has the shape. -/
theorem tame_failureOf_iff (fields : List (String × Json)) (existingCase : Option RecoveryCase)
    (attemptNumber : Option Nat)
    : Tame (failureOf (.obj fields) existingCase attemptNumber)
      ↔ FailedShape existingCase attemptNumber fields := by
  unfold failureOf
  rw [tame_get_obj, tame_raiseIf_bind rfl, not_not, Json.text?_field]
  refine imp_congr_right fun _ => ?_
  rw [tame_get_obj, tame_raiseIf_bind rfl, not_not, Json.text?_field]
  refine imp_congr_right fun _ => ?_
  rw [tame_item_obj]
  refine forall₂_congr fun paymentId _ => ?_
  rw [tame_item_obj]
  refine forall₂_congr fun amount _ => ?_
  rw [tame_bind, tame_pyInt]
  refine and_congr_right fun _ => forall₂_congr fun n _ => ?_
  rw [tame_raiseIf_bind rfl]
  refine imp_congr not_le ?_
  rw [tame_get_obj, tame_raiseIf_bind rfl, Bool.not_eq_false]
  refine imp_congr_right fun _ => ?_
  rw [tame_encode_bind, ← exists_and_right]
  refine exists_congr fun vpa => and_congr_right fun _ => ?_
  rw [tame_get_obj, tame_get_bind, Json.IsObject, ← exists_and_right]
  refine exists_congr fun notes => and_congr_right fun object => ?_
  rw [show (((fields.lookup "notes").getD .null).orEmpty).fields = .ok notes by
    rw [object]; rfl]
  rw [tame_ok_bind, tame_get_obj, tame_get_obj, tame_get_obj, tame_get_obj]
  rw [tame_bind, and_iff_right tame_resolveAttempt.1,
    ← @tame_resolveAttempt paymentId existingCase attemptNumber |>.2, forall_exists_index]
  refine forall₂_congr fun resolved _ => ?_
  refine tame_dated fun receivedAt => ?_
  repeat' split
  all_goals first | exact tame_ok | exact tame_error.mpr rfl

/-- `parse_payment_failed` raises nothing but a `KeyError` or a `ValueError` exactly on payloads
of the shape.
-/
theorem tame_parsePaymentFailed_iff (payload : Json) (existingCase : Option RecoveryCase)
    (attemptNumber : Option Nat)
    : Tame (parsePaymentFailed payload existingCase attemptNumber)
      ↔ payload.At
          (fun entity =>
            ∃ fields, entity = .obj fields ∧ FailedShape existingCase attemptNumber fields)
          entityPath := by
  unfold parsePaymentFailed
  rw [tame_paymentEntity_bind]
  refine Json.At.congr fun entity => ?_
  cases entity with
  | obj fields => simp [tame_failureOf_iff]
  | _ => simp [failureOf, tame_get_bind]

/-- The fields of a captured payment, likewise. -/
def CapturedShape (fields : List (String × Json)) : Prop :=
  ∀ paymentId, fields.lookup "id" = some paymentId
    → ∀ amount, fields.lookup "amount" = some amount
      → amount.Countable ∧ ∀ n, pyInt amount = .ok n → 0 < n → DatedShape fields

theorem tame_successOf_iff (fields : List (String × Json)) (case : RecoveryCase)
    : Tame (successOf (.obj fields) case) ↔ CapturedShape fields := by
  unfold successOf
  rw [tame_item_obj]
  refine forall₂_congr fun paymentId _ => ?_
  rw [tame_item_obj]
  refine forall₂_congr fun amount _ => ?_
  rw [tame_bind, tame_pyInt]
  refine and_congr_right fun _ => forall₂_congr fun n _ => ?_
  rw [tame_raiseIf_bind rfl]
  refine imp_congr not_le ?_
  refine tame_dated fun capturedAt => ?_
  repeat' split
  all_goals first | exact tame_ok | exact tame_error.mpr rfl

/-- `parse_payment_captured` raises nothing but a `KeyError` or a `ValueError` exactly on
payloads of the shape.
-/
theorem tame_parsePaymentCaptured_iff (payload : Json) (case : RecoveryCase)
    : Tame (parsePaymentCaptured payload case)
      ↔ payload.At (fun entity => ∃ fields, entity = .obj fields ∧ CapturedShape fields)
          entityPath := by
  unfold parsePaymentCaptured
  rw [tame_paymentEntity_bind]
  refine Json.At.congr fun entity => ?_
  cases entity with
  | obj fields => simp [tame_successOf_iff]
  | _ => simp [successOf, tame_item_bind]

end Payload

end RecoveryAgent
