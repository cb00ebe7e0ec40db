import Slan.Lib.Mac
import Slan.Relay.Ticket

/-! # `auth`: ticket validation

HMAC-SHA256 is a parameter.
-/

namespace Slan.Relay

structure HmacTicketSignatureValidator where
  secret : String
  deriving DecidableEq, Repr

def HmacTicketSignatureValidator.validate (v : HmacTicketSignatureValidator) (mac : Mac)
    (ticket : RelayTicket) : Except RelayError Unit :=
  let expected := mac.sign v.secret ticket.signingPayload
  if expected ≠ ticket.signature then .error .invalidSignature else .ok ()

structure StaticTicketValidator where
  requiredRelayUrlPrefix : Option String
  signatureValidator : Option HmacTicketSignatureValidator
  deriving DecidableEq, Repr

namespace StaticTicketValidator

def withOptions (requiredRelayUrlPrefix ticketSigningSecret : Option String) :
    StaticTicketValidator :=
  ⟨requiredRelayUrlPrefix, ticketSigningSecret.map HmacTicketSignatureValidator.mk⟩

def validateRequiredFields (ticket : RelayTicket) : Except RelayError Unit :=
  if Text.isBlank ticket.ticketId ∨ Text.isBlank ticket.signature ∨
      Text.isBlank ticket.relayUrl ∨ Text.isBlank ticket.expiresAt ∨
      Text.isBlank ticket.networkId ∨ Text.isBlank ticket.sessionId ∨
      Text.isBlank ticket.srcNodeId ∨ Text.isBlank ticket.dstNodeId then
    .error .invalidTicket
  else .ok ()

def validateRelayPrefix (v : StaticTicketValidator) (ticket : RelayTicket) :
    Except RelayError Unit :=
  match v.requiredRelayUrlPrefix with
  | none => .ok ()
  | some urlPrefix =>
    if urlPrefix.toList.isPrefixOf ticket.relayUrl.toList then .ok () else .error .invalidTicket

def validateExpiration (now : Int) (ticket : RelayTicket) : Except RelayError Unit :=
  match ticket.isExpired now with
  | .error e => .error e
  | .ok true => .error .ticketExpired
  | .ok false => .ok ()

def validateSignature (v : StaticTicketValidator) (mac : Mac) (ticket : RelayTicket) :
    Except RelayError Unit :=
  match v.signatureValidator with
  | some validator => validator.validate mac ticket
  | none => .ok ()

def validate (v : StaticTicketValidator) (mac : Mac) (now : Int) (ticket : RelayTicket) :
    Except RelayError Unit := do
  validateRequiredFields ticket
  v.validateRelayPrefix ticket
  validateExpiration now ticket
  v.validateSignature mac ticket

theorem bind_eq_ok {ε : Type} {x y : Except ε Unit} (h : (x >>= fun _ => y) = .ok ()) :
    x = .ok () ∧ y = .ok () := by
  cases x with
  | error e => cases h
  | ok u => exact ⟨rfl, h⟩

/-- Whether a session exists is the store's answer, never the validator's. -/
theorem validate_ne_sessionAlreadyExists (v : StaticTicketValidator) (mac : Mac) (now : Int)
    (ticket : RelayTicket) : v.validate mac now ticket ≠ .error .sessionAlreadyExists := by
  have hfields : validateRequiredFields ticket ≠ .error .sessionAlreadyExists := by
    unfold validateRequiredFields
    split <;> simp
  have hprefix : v.validateRelayPrefix ticket ≠ .error .sessionAlreadyExists := by
    unfold validateRelayPrefix
    split
    · simp
    · split <;> simp
  have hexp : validateExpiration now ticket ≠ .error .sessionAlreadyExists := by
    unfold validateExpiration RelayTicket.isExpired RelayTicket.isExpiredAt
    by_cases hneg : now < 0
    · simp [hneg]
    · cases hp : parseTimestamp ticket.expiresAt with
      | error e => simp [hneg, Except.map, error_of_parseTimestamp hp]
      | ok expiresAt => by_cases hle : expiresAt ≤ now <;> simp [hneg, Except.map, hle]
  have hsig : v.validateSignature mac ticket ≠ .error .sessionAlreadyExists := by
    unfold validateSignature HmacTicketSignatureValidator.validate
    split
    · dsimp only
      split <;> simp
    · simp
  have hbind : ∀ {x y : Except RelayError Unit}, x ≠ .error .sessionAlreadyExists →
      y ≠ .error .sessionAlreadyExists → (x >>= fun _ => y) ≠ .error .sessionAlreadyExists := by
    intro x y hx hy
    cases x with
    | error e => exact hx
    | ok u => exact hy
  exact hbind hfields (hbind hprefix (hbind hexp hsig))

/-- The four checks that an accepted ticket has passed. -/
theorem validate_eq_ok {v : StaticTicketValidator} {mac : Mac} {now : Int} {ticket : RelayTicket}
    (h : v.validate mac now ticket = .ok ()) :
    validateRequiredFields ticket = .ok () ∧ v.validateRelayPrefix ticket = .ok () ∧
      validateExpiration now ticket = .ok () ∧ v.validateSignature mac ticket = .ok () := by
  obtain ⟨h1, h⟩ := bind_eq_ok h
  obtain ⟨h2, h⟩ := bind_eq_ok h
  obtain ⟨h3, h4⟩ := bind_eq_ok h
  exact ⟨h1, h2, h3, h4⟩

/-- A ticket is accepted strictly before its expiry only. -/
theorem expiry_of_validate {v : StaticTicketValidator} {mac : Mac} {now : Int}
    {ticket : RelayTicket} (h : v.validate mac now ticket = .ok ()) :
    ∃ expiresAt, parseTimestamp ticket.expiresAt = .ok expiresAt ∧ now < expiresAt := by
  have hexp := (validate_eq_ok h).2.2.1
  unfold validateExpiration RelayTicket.isExpired RelayTicket.isExpiredAt at hexp
  by_cases hneg : now < 0
  · simp [hneg] at hexp
  · cases hp : parseTimestamp ticket.expiresAt with
    | error e => simp [hneg, hp, Except.map] at hexp
    | ok expiresAt =>
      refine ⟨expiresAt, rfl, ?_⟩
      by_contra hle
      simp [hneg, hp, Except.map, Int.not_lt.mp hle] at hexp

/-- With a secret configured, an accepted ticket carries the tag of its own payload. -/
theorem signature_of_validate {v : StaticTicketValidator} {mac : Mac} {now : Int} {secret : String}
    {ticket : RelayTicket} (hv : v.signatureValidator = some ⟨secret⟩)
    (h : v.validate mac now ticket = .ok ()) :
    ticket.signature = mac.sign secret ticket.signingPayload := by
  have hsig := (validate_eq_ok h).2.2.2
  rw [validateSignature, hv] at hsig
  by_contra hne
  simp [HmacTicketSignatureValidator.validate, Ne.symm hne] at hsig

end StaticTicketValidator

end Slan.Relay
