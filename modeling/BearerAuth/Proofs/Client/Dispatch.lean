import BearerAuth.Client.Execute
import BearerAuth.Proofs.Bytes
import BearerAuth.Proofs.Http.Header

/-!
# What a client dispatches

A request ends in one of three ways: its provider has no token, the token cannot stand in a header
(`Secret.IsLegal`), or the request is handed to the transport with the token as its one credential.
A recorded transport keeps the list of the requests that it was handed, and nothing else changes
(`execute_recorded`); the list is empty in the first two cases and has one entry in the third
(`execute_dispatches_iff_legal`).
-/

namespace BearerAuth

open Http Time

variable {σ : Type}

/-- Whether each octet of a token may stand in a header. -/
def Token.Secret.IsLegal (token : Token.Secret) : Prop :=
  ∀ b ∈ Bytes.ofText token.exposed, b = 9 ∨ 32 ≤ b ∧ b ≠ 127

instance (token : Token.Secret) : Decidable token.IsLegal :=
  inferInstanceAs (Decidable (∀ b ∈ Bytes.ofText token.exposed, b = 9 ∨ 32 ≤ b ∧ b ≠ 127))

theorem isLegal_iff {token : Token.Secret} :
    token.IsLegal ↔ (Bytes.ofText token.exposed).all isValueOctet := by
  simp only [Token.Secret.IsLegal, List.all_eq_true, isValueOctet_iff]

theorem all_isValueOctet_scheme :
    (Bytes.ofText (bearerScheme ++ " ")).all isValueOctet = true := by
  decide +kernel

theorem credential?_eq_some_iff {token : Token.Secret} {v : HeaderValue} :
    credential? token = some v ↔
      v.octets = Bytes.ofText (bearerScheme ++ " " ++ token.exposed) ∧ v.sensitive = true := by
  simp only [credential?, Option.map_eq_some_iff, HeaderValue.ofOctets?_eq_some_iff]
  constructor
  · rintro ⟨w, ⟨hw, -⟩, rfl⟩
    exact ⟨hw, rfl⟩
  · rintro ⟨hv, hs⟩
    refine ⟨⟨v.octets, false, v.octets_legal⟩, ⟨hv, rfl⟩, ?_⟩
    simp only [HeaderValue.asSensitive, ← hs]

theorem credential?_isSome_iff {token : Token.Secret} :
    (credential? token).isSome ↔ token.IsLegal := by
  rw [isLegal_iff, credential?, Option.isSome_map, HeaderValue.ofOctets?_isSome_iff,
    Bytes.ofText_append, List.all_append, all_isValueOctet_scheme, Bool.true_and]

theorem credential?_eq_none_iff {token : Token.Secret} :
    credential? token = none ↔ ¬ token.IsLegal := by
  rw [← credential?_isSome_iff, Option.not_isSome_iff_eq_none]

theorem isLegal_of_credential? {token : Token.Secret} {v : HeaderValue}
    (h : credential? token = some v) : token.IsLegal :=
  credential?_isSome_iff.1 (Option.isSome_of_eq_some h)

theorem exists_credential? {token : Token.Secret} (h : token.IsLegal) :
    ∃ v, credential? token = some v ∧ v.sensitive = true := by
  obtain ⟨v, hv⟩ := Option.isSome_iff_exists.1 (credential?_isSome_iff.2 h)
  exact ⟨v, hv, (credential?_eq_some_iff.1 hv).2⟩

def Transport.recorded (t : Transport σ) : Transport (σ × List Request) :=
  ⟨fun r s => ((t.execute r s.1).1, (t.execute r s.1).2, s.2 ++ [r]), t.httpTimeout,
    fun s => ((t.closeIdle s.1).1, (t.closeIdle s.1).2, s.2)⟩

def Settings.recorded (s : Settings σ) : Settings (σ × List Request) :=
  ⟨s.development, s.logger, s.transport.map Transport.recorded, s.timeout, s.trace⟩

namespace Client

def recorded (c : Client σ) : Client (σ × List Request) :=
  ⟨c.baseUrl, c.transport.recorded, c.timeout, c.settings.recorded⟩

variable (c : Client σ) {token : Except Error Token.Secret} {t : Token.Secret} {v : HeaderValue}
  (elapsed : Duration) (r : Request) (s : σ)

/-- The requests that the transport is handed. -/
def dispatches (token : Except Error Token.Secret) (elapsed : Duration) (r : Request) (s : σ) :
    List Request :=
  (c.recorded.execute token elapsed r (s, [])).state.2

theorem execute_of_error (e : Error) :
    c.execute (.error e) elapsed r s = ⟨refusal r e, .error e, s⟩ := rfl

theorem execute_of_illegal (h : credential? t = none) :
    c.execute (.ok t) elapsed r s = ⟨[], .error (.request .invalidHeader), s⟩ := by
  simp only [execute, h]

theorem execute_of_legal (h : credential? t = some v) : c.execute (.ok t) elapsed r s =
    ⟨c.departure (c.prepared v elapsed r)
      ++ c.reach (c.transport.execute (c.prepared v elapsed r) s).1.milestones
      ++ c.arrival (c.prepared v elapsed r) (c.transport.execute (c.prepared v elapsed r) s).1,
      (c.transport.execute (c.prepared v elapsed r) s).1.reply.mapError .request,
      (c.transport.execute (c.prepared v elapsed r) s).2⟩ := by
  simp only [execute, h]

theorem dispatches_of_error (e : Error) : c.dispatches (.error e) elapsed r s = [] := rfl

theorem dispatches_of_illegal (h : credential? t = none) :
    c.dispatches (.ok t) elapsed r s = [] := by
  rw [dispatches, execute_of_illegal c.recorded elapsed r _ h]

theorem dispatches_of_legal (h : credential? t = some v) :
    c.dispatches (.ok t) elapsed r s = [c.prepared v elapsed r] := by
  rw [dispatches, execute_of_legal c.recorded elapsed r _ h]
  rfl

/-- The record grows by what is dispatched, and changes nothing. -/
theorem execute_recorded (token : Except Error Token.Secret) (requests : List Request) :
    c.recorded.execute token elapsed r (s, requests) =
      ⟨(c.execute token elapsed r s).signals, (c.execute token elapsed r s).result,
        (c.execute token elapsed r s).state, requests ++ c.dispatches token elapsed r s⟩ := by
  rcases token with e | t
  · rw [dispatches_of_error, List.append_nil]
    rfl
  rcases h : credential? t with _ | v
  · rw [dispatches_of_illegal c elapsed r s h, List.append_nil,
      execute_of_illegal c elapsed r s h, execute_of_illegal c.recorded elapsed r _ h]
  · rw [dispatches_of_legal c elapsed r s h, execute_of_legal c elapsed r s h,
      execute_of_legal c.recorded elapsed r _ h]
    rfl

/-- A prepared request is the one that came in, with the credential in the place of those it had. -/
theorem prepared_spec (h : credential? t = some v) :
    (c.prepared v elapsed r).method = r.method
      ∧ (c.prepared v elapsed r).url = r.url
      ∧ (c.prepared v elapsed r).body = r.body
      ∧ (∀ name, name ≠ .authorization →
        (c.prepared v elapsed r).headers.values name = r.headers.values name)
      ∧ ((c.prepared v elapsed r).headers.values .authorization).map HeaderValue.octets
        = [Bytes.ofText ("Bearer " ++ t.exposed)] := by
  have hvalues : (c.prepared v elapsed r).headers.values .authorization = [v] :=
    r.headers.values_set_self
  refine ⟨rfl, rfl, rfl, fun name hne => r.headers.values_set_of_ne hne, ?_⟩
  rw [hvalues, List.map_singleton, (credential?_eq_some_iff.1 h).1]
  rfl

/-- The requests that a recorded transport is handed are at most one, and one exactly if there is a
token and each of its octets may stand in a header. It then goes out as it came in, but for its
deadline and for the one credential that it carries, and what the transport answers is what comes of
it. Otherwise the transport is left alone, no hook is told anything, and the error is that of the
provider or says that the token is illegal. -/
theorem execute_dispatches_iff_legal (token : Except Error Token.Secret) :
    (∀ requests, c.recorded.execute token elapsed r (s, requests) =
      ⟨(c.execute token elapsed r s).signals, (c.execute token elapsed r s).result,
        (c.execute token elapsed r s).state, requests ++ c.dispatches token elapsed r s⟩)
    ∧ (c.dispatches token elapsed r s).length ≤ 1
    ∧ ((c.dispatches token elapsed r s).length = 1 ↔ ∃ t, token = .ok t ∧ t.IsLegal)
    ∧ (∀ q ∈ c.dispatches token elapsed r s, ∃ t, token = .ok t
      ∧ q.method = r.method ∧ q.url = r.url ∧ q.body = r.body
      ∧ (∀ name, name ≠ .authorization → q.headers.values name = r.headers.values name)
      ∧ (q.headers.values .authorization).map HeaderValue.octets
        = [Bytes.ofText ("Bearer " ++ t.exposed)]
      ∧ (∀ response, (c.transport.execute q s).1.reply = .ok response →
        (c.execute token elapsed r s).result = .ok response)
      ∧ (∀ failure, (c.transport.execute q s).1.reply = .error failure →
        (c.execute token elapsed r s).result = .error (.request failure))
      ∧ (c.execute token elapsed r s).state = (c.transport.execute q s).2)
    ∧ (∀ e, token = .error e → (c.execute token elapsed r s).result = .error e)
    ∧ (∀ t, token = .ok t → ¬ t.IsLegal →
      (c.execute token elapsed r s).result = .error (.request .invalidHeader))
    ∧ (c.dispatches token elapsed r s = [] →
      (c.execute token elapsed r s).state = s
      ∧ ∀ m, Signal.reached m ∉ (c.execute token elapsed r s).signals) := by
  refine ⟨c.execute_recorded elapsed r s token, ?_⟩
  rcases token with e | t
  · simp [dispatches_of_error, execute_of_error, refusal]
  rcases h : credential? t with _ | v
  · have hillegal := credential?_eq_none_iff.1 h
    simp [dispatches_of_illegal c elapsed r s h, execute_of_illegal c elapsed r s h, hillegal]
  · have hlegal : t.IsLegal := credential?_isSome_iff.1 (Option.isSome_of_eq_some h)
    rw [dispatches_of_legal c elapsed r s h, execute_of_legal c elapsed r s h]
    refine ⟨Nat.le_refl 1, ⟨fun _ => ⟨t, rfl, hlegal⟩, fun _ => rfl⟩, fun q hq => ?_, by simp,
      fun t' ht hnot => ?_, by simp⟩
    · obtain rfl := List.mem_singleton.1 hq
      obtain ⟨hmethod, hurl, hbody, hothers, hcredential⟩ := c.prepared_spec elapsed r h
      refine ⟨t, rfl, hmethod, hurl, hbody, hothers, hcredential, fun response hreply => ?_,
        fun failure hreply => ?_, rfl⟩
      · simp only [hreply, Except.mapError]
      · simp only [hreply, Except.mapError]
    · cases ht
      exact absurd hlegal hnot

end Client

end BearerAuth
