import BearerAuth.Key
import BearerAuth.Proofs.Token.Failure

/-!
# What others see of a token

Of a signature only the exposed text of its token tells anything. Whether a call mints depends on
the instants of the kept token, and what it reports on the instants of the new one or on the error.
So two providers whose signers sign and fail alike (`Signer.FailAlike`), and differ in nothing else,
cannot be told apart but by exposed texts: up to these, one step of use gives the same in both
(`use_simulated`), and so does a run (`uses_simulated`), also while callers are interleaved
(`run_simulated`).

The two states are related by any relation that the signers keep (`Signer.Simulates`), so the same
proof serves a signer and the signer that records its calls.
-/

namespace BearerAuth

variable {σ τ : Type}

namespace Signer

/-- What a signer answers, but for the signature. -/
def outcome (answer : Except SigningError Bytes) : Except SigningError Unit :=
  answer.map fun _ => ()

/-- Whatever they are asked for, two signers sign and fail at the same calls, with the same
errors. -/
def FailAlike (s : Signer σ) (t : Signer τ) (a : σ) (b : τ) : Prop :=
  ∀ inputs, (s.answers inputs a).map outcome = (t.answers inputs b).map outcome

/-- Related states of two signers have the same outcomes, and stay related. -/
structure Simulates (s : Signer σ) (t : Signer τ) (R : σ → τ → Prop) : Prop where
  outcome : ∀ {a b} (input : Bytes), R a b →
    outcome (s.sign input a).1 = outcome (t.sign input b).1
  next : ∀ {a b} (input : Bytes), R a b → R (s.sign input a).2 (t.sign input b).2

theorem simulates_failAlike (s : Signer σ) (t : Signer τ) : s.Simulates t (s.FailAlike t) where
  outcome input h := (List.cons.inj (h [input])).1
  next input h later := (List.cons.inj (h (input :: later))).2

end Signer

def SigningCall.redacted (call : SigningCall) : Bytes × Except SigningError Unit :=
  (call.1, Signer.outcome call.2)

variable {s : Signer σ} {t : Signer τ} {R : σ → τ → Prop}

/-- The states are related, and the signers were asked for the same, with the same outcomes. -/
def Signer.Recorded (R : σ → τ → Prop) (a : σ × List SigningCall) (b : τ × List SigningCall) :
    Prop :=
  R a.1 b.1 ∧ a.2.map SigningCall.redacted = b.2.map SigningCall.redacted

theorem Signer.Simulates.recorded (h : s.Simulates t R) :
    s.recorded.Simulates t.recorded (Signer.Recorded R) where
  outcome input hR := h.outcome input hR.1
  next {a b} input hR := by
    refine ⟨h.next input hR.1, ?_⟩
    have hcall : SigningCall.redacted (input, (s.sign input a.1).1)
        = SigningCall.redacted (input, (t.sign input b.1).1) :=
      congrArg (Prod.mk input) (h.outcome input hR.1)
    simp only [Signer.recorded, List.map_append, List.map_singleton, hR.2, hcall]

namespace Token

open Time

def Secret.redacted (_ : Secret) : Secret :=
  ⟨redaction⟩

def CachedToken.redacted (c : CachedToken) : CachedToken :=
  { c with token := c.token.redacted }

namespace Answer

/-- The answer, but for the text of its token. -/
def redacted : Answer → Answer
  | cached token => cached token.redacted
  | minted c => minted c.redacted
  | failed e => failed e
  | outOfRange => outOfRange

def error? : Answer → Option Error
  | failed e => some e
  | _ => none

end Answer

namespace Provider

def withSigner (p : Provider σ) (t : Signer τ) : Provider τ :=
  ⟨p.keyId, p.issuer, p.ttl, t⟩

/-- Two states that differ in the text of the kept token, and in what a relation of signers leaves
open. -/
structure State.Simulated (R : σ → τ → Prop) (a : State σ) (b : State τ) : Prop where
  slot : a.slot.map CachedToken.redacted = b.slot.map CachedToken.redacted
  signer : R a.signer b.signer

variable {p : Provider σ} {a : State σ} {b : State τ}

theorem report_redacted (p : Provider σ) (answer : Answer) :
    p.report answer.redacted = p.report answer := by
  cases answer <;> rfl

theorem shown_congr (h : a.slot.map CachedToken.redacted = b.slot.map CachedToken.redacted) :
    p.shown a = (p.withSigner t).shown b := by
  have hsome := congrArg Option.isSome h
  simp only [Option.isSome_map] at hsome
  simp only [shown, hsome, withSigner]

theorem lookup_redacted (slot : Option CachedToken) (now : Instant) :
    lookup (slot.map CachedToken.redacted) now = (lookup slot now).map Secret.redacted := by
  rcases slot with _ | c
  · rfl
  · have hvalid : c.redacted.isValidAt now = c.isValidAt now := rfl
    simp only [lookup, Option.map_some, Option.filter_some, hvalid]
    split_ifs <;> rfl

theorem kept_redacted (slot : Option CachedToken) (answer : Answer) :
    kept (slot.map CachedToken.redacted) answer.redacted
      = (kept slot answer).map CachedToken.redacted := by
  cases answer <;> rfl

theorem mint_simulated (h : p.signer.Simulates t R) (now : Instant) {a : σ} {b : τ}
    (hR : R a b) : (p.mint now a).1.redacted = ((p.withSigner t).mint now b).1.redacted
      ∧ R (p.mint now a).2 ((p.withSigner t).mint now b).2 := by
  obtain ⟨header, payload, hheader, hpayload⟩ := p.exists_write now
  rw [p.mint_eq hheader hpayload, (p.withSigner t).mint_eq hheader hpayload]
  have houtcome := h.outcome (octets (signingInput header payload)) hR
  have hnext := h.next (octets (signingInput header payload)) hR
  have hsigner : (p.withSigner t).signer = t := rfl
  have httl : (p.withSigner t).ttl = p.ttl := rfl
  rw [hsigner, httl]
  rcases ha : p.signer.sign (octets (signingInput header payload)) a with ⟨f | signature, a'⟩ <;>
    rcases hb : t.sign (octets (signingInput header payload)) b with ⟨f' | signature', b'⟩ <;>
      rw [ha, hb] at houtcome hnext
  · cases houtcome
    exact ⟨rfl, hnext⟩
  · cases houtcome
  · cases houtcome
  · rcases now.add? p.ttl with _ | expiresAt <;> exact ⟨rfl, hnext⟩

/-- Whether there is a valid token does not hang on what is exposed. -/
theorem lookup_simulated (h : a.slot.map CachedToken.redacted = b.slot.map CachedToken.redacted)
    (now : Instant) : (lookup a.slot now).map Secret.redacted
      = (lookup b.slot now).map Secret.redacted := by
  rw [← lookup_redacted, h, lookup_redacted]

theorem kept_simulated {slot slot' : Option CachedToken} {answer answer' : Answer}
    (h : slot.map CachedToken.redacted = slot'.map CachedToken.redacted)
    (hanswer : answer.redacted = answer'.redacted) :
    (kept slot answer).map CachedToken.redacted
      = (kept slot' answer').map CachedToken.redacted := by
  rw [← kept_redacted, h, hanswer, kept_redacted]

theorem token_simulated (h : p.signer.Simulates t R) (now : Instant) (hR : State.Simulated R a b) :
    (p.token now a).1.redacted = ((p.withSigner t).token now b).1.redacted
      ∧ State.Simulated R (p.token now a).2 ((p.withSigner t).token now b).2 := by
  obtain ⟨hanswer, hnext⟩ := mint_simulated h now hR.signer
  have hlookup := lookup_simulated hR.slot now
  simp only [token_eq_renew, renew]
  rcases ha : lookup a.slot now with _ | token <;> rcases hb : lookup b.slot now with _ | token' <;>
    rw [ha, hb] at hlookup
  · exact ⟨hanswer, kept_simulated hR.slot hanswer, hnext⟩
  · cases hlookup
  · cases hlookup
  · exact ⟨rfl, hR⟩

end Provider

/-- What the user of a provider may do. -/
inductive Use
  | token (now : Instant)
  | cached
  | validAt (t : Instant)
  | ttl
  | debug

/-- What the user gets. -/
inductive Reply
  | token (answer : Answer)
  | cached (c : Option CachedToken)
  | validAt (valid : Option Bool)
  | ttl (ttl : Span)
  | debug (text : String)

namespace Reply

def redacted : Reply → Reply
  | token answer => token answer.redacted
  | cached c => cached (c.map CachedToken.redacted)
  | reply => reply

def error? : Reply → Option Error
  | token answer => answer.error?
  | _ => none

def instants? : Reply → Option (Instant × Instant)
  | cached c => c.map fun c => (c.issuedAt, c.expiresAt)
  | _ => none

def valid? : Reply → Option Bool
  | validAt valid => valid
  | _ => none

/-- Everything in which the reply can be shown. -/
def texts : Reply → List String
  | token answer => answer.token?.toList.flatMap fun token => [token.shown, token.shownNamed]
  | cached c => c.toList.flatMap fun c => [c.shown, c.token.shown, c.token.shownNamed]
  | debug text => [text]
  | validAt _ | ttl _ => []

variable (reply : Reply)

theorem error?_redacted : reply.redacted.error? = reply.error? := by
  rcases reply with (_ | _ | _ | _) | _ | _ | _ | _ <;> rfl

theorem instants?_redacted : reply.redacted.instants? = reply.instants? := by
  rcases reply with _ | (_ | _) | _ | _ | _ <;> rfl

theorem valid?_redacted : reply.redacted.valid? = reply.valid? := by
  cases reply <;> rfl

theorem texts_redacted : reply.redacted.texts = reply.texts := by
  rcases reply with (_ | _ | _ | _) | (_ | _) | _ | _ | _ <;> rfl

end Reply

namespace Provider

/-- One use of a provider: what the user gets, what is emitted, and the state after it. -/
def use (p : Provider σ) (state : State σ) : Use → (Reply × List Emission) × State σ
  | .token now => ((.token (p.token now state).1, p.report (p.token now state).1),
      (p.token now state).2)
  | .cached => ((.cached state.slot, []), state)
  | .validAt t => ((.validAt (state.slot.map (·.isValidAt t)), []), state)
  | .ttl => ((.ttl p.ttl, []), state)
  | .debug => ((.debug (p.shown state), []), state)

def uses (p : Provider σ) : List Use → State σ → List (Reply × List Emission) × State σ
  | [], state => ([], state)
  | u :: later, state =>
    ((p.use state u).1 :: (p.uses later (p.use state u).2).1, (p.uses later (p.use state u).2).2)

/-- What the signer is asked and answers while a provider is used. -/
def usesSignings (p : Provider σ) (us : List Use) (state : State σ) : List SigningCall :=
  (p.recorded.uses us state.recorded).2.signer.2

variable {p : Provider σ} {a : State σ} {b : State τ}

theorem use_simulated (h : p.signer.Simulates t R) (u : Use) (hR : State.Simulated R a b) :
    (p.use a u).1.map Reply.redacted id = ((p.withSigner t).use b u).1.map Reply.redacted id
      ∧ State.Simulated R (p.use a u).2 ((p.withSigner t).use b u).2 := by
  cases u with
  | token now =>
    obtain ⟨hanswer, hnext⟩ := token_simulated h now hR
    have hreport : p.report (p.token now a).1
        = (p.withSigner t).report ((p.withSigner t).token now b).1 := by
      rw [← p.report_redacted, hanswer, ← (p.withSigner t).report_redacted]
      rfl
    refine ⟨?_, hnext⟩
    simp only [use, Prod.map, Reply.redacted, hanswer, hreport]
  | cached =>
    refine ⟨?_, hR⟩
    simp only [use, Prod.map, Reply.redacted, hR.slot]
  | validAt i =>
    refine ⟨?_, hR⟩
    have hvalid : a.slot.map (·.isValidAt i) = b.slot.map (·.isValidAt i) := by
      have := congrArg (Option.map (·.isValidAt i)) hR.slot
      rwa [Option.map_map, Option.map_map] at this
    simp only [use, hvalid]
  | ttl => exact ⟨rfl, hR⟩
  | debug =>
    refine ⟨?_, hR⟩
    simp only [use, shown_congr (t := t) hR.slot]

theorem uses_simulated (h : p.signer.Simulates t R) : ∀ (us : List Use) {a : State σ} {b : State τ},
    State.Simulated R a b →
      (p.uses us a).1.map (Prod.map Reply.redacted id)
          = ((p.withSigner t).uses us b).1.map (Prod.map Reply.redacted id)
        ∧ State.Simulated R (p.uses us a).2 ((p.withSigner t).uses us b).2
  | [], _, _, hR => ⟨rfl, hR⟩
  | u :: later, a, b, hR => by
    obtain ⟨hreply, hnext⟩ := use_simulated h u hR
    obtain ⟨hreplies, hend⟩ := uses_simulated h later hnext
    exact ⟨congrArg₂ List.cons hreply hreplies, hend⟩

end Provider

def Call.redacted : Call → Call
  | storing answer => storing answer.redacted
  | leaving answer => leaving answer.redacted
  | reporting answer => reporting answer.redacted
  | returned answer => returned answer.redacted
  | call => call

namespace Call

theorem isReading_redacted (call : Call) : call.redacted.isReading = call.isReading := by
  cases call <;> rfl

theorem isWriting_redacted (call : Call) : call.redacted.isWriting = call.isWriting := by
  cases call <;> rfl

/-- Who has to wait does not hang on what is exposed. -/
theorem mayStep_redacted (calls : List Call) (call : Call) :
    call.redacted.mayStep (calls.map redacted) = call.mayStep calls := by
  have hany : ∀ {f : Call → Bool}, (∀ call : Call, f call.redacted = f call) →
      (calls.map redacted).any f = calls.any f := fun {f} hf => by
    rw [List.any_map, Function.comp_def]
    simp only [hf]
  cases call with
  | started now => exact congrArg not (hany isWriting_redacted)
  | waiting now =>
    refine congrArg not (hany fun call => ?_)
    rw [isReading_redacted, isWriting_redacted]
  | _ => rfl

end Call

namespace Crowd

open Provider

/-- Two crowds that differ in exposed texts, and in what a relation of signers leaves open. -/
structure Simulated (R : σ → τ → Prop) (c : Crowd σ) (d : Crowd τ) : Prop where
  state : State.Simulated R c.state d.state
  calls : c.calls.map Call.redacted = d.calls.map Call.redacted
  seen : c.seen = d.seen

variable {p : Provider σ} {c : Crowd σ} {d : Crowd τ}

theorem moving?_redacted (c : Crowd σ) (i : Nat) :
    (c.moving? i).map Call.redacted
      = (c.calls.map Call.redacted)[i]?.filter (·.mayStep (c.calls.map Call.redacted)) := by
  rw [List.getElem?_map, moving?]
  rcases c.calls[i]? with _ | call
  · rfl
  · simp only [Option.map_some, Option.filter_some, Call.mayStep_redacted]
    split_ifs <;> rfl

/-- What a call exposes makes no difference to its next step but in what it exposes then. -/
theorem advance_redacted (state : State σ) (call : Call) :
    (advance p state call.redacted).1.slot.map CachedToken.redacted
        = (advance p state call).1.slot.map CachedToken.redacted
      ∧ (advance p state call.redacted).1.signer = (advance p state call).1.signer
      ∧ (advance p state call.redacted).2.1.redacted = (advance p state call).2.1.redacted
      ∧ (advance p state call.redacted).2.2 = (advance p state call).2.2 := by
  have hredacted : ∀ answer : Answer, answer.redacted.redacted = answer.redacted := fun answer => by
    cases answer <;> rfl
  cases call with
  | storing answer =>
    refine ⟨?_, rfl, congrArg Call.leaving (hredacted answer), rfl⟩
    exact kept_simulated rfl (hredacted answer)
  | leaving answer => exact ⟨rfl, rfl, congrArg Call.reporting (hredacted answer), rfl⟩
  | reporting answer =>
    exact ⟨rfl, rfl, congrArg Call.returned (hredacted answer), p.report_redacted answer⟩
  | returned answer => exact ⟨rfl, rfl, congrArg Call.returned (hredacted answer), rfl⟩
  | _ => exact ⟨rfl, rfl, rfl, rfl⟩

theorem advance_simulated_same (h : p.signer.Simulates t R) {a : State σ} {b : State τ}
    (hR : State.Simulated R a b) (call : Call) :
    State.Simulated R (advance p a call).1 (advance (p.withSigner t) b call).1
      ∧ (advance p a call).2.1.redacted = (advance (p.withSigner t) b call).2.1.redacted
      ∧ (advance p a call).2.2 = (advance (p.withSigner t) b call).2.2 := by
  cases call with
  | looking now | checking now =>
    have hlookup := lookup_simulated hR.slot now
    simp only [advance]
    rcases ha : lookup a.slot now with _ | token <;>
      rcases hb : lookup b.slot now with _ | token' <;> rw [ha, hb] at hlookup
    · exact ⟨hR, rfl, rfl⟩
    · cases hlookup
    · cases hlookup
    · exact ⟨hR, rfl, rfl⟩
  | signing now =>
    obtain ⟨hanswer, hnext⟩ := mint_simulated h now hR.signer
    exact ⟨⟨hR.slot, hnext⟩, congrArg Call.storing hanswer, rfl⟩
  | storing answer => exact ⟨⟨kept_simulated hR.slot rfl, hR.signer⟩, rfl, rfl⟩
  | _ => exact ⟨hR, rfl, rfl⟩

theorem advance_simulated (h : p.signer.Simulates t R) {a : State σ} {b : State τ}
    (hR : State.Simulated R a b) {call call' : Call} (hcall : call.redacted = call'.redacted) :
    State.Simulated R (advance p a call).1 (advance (p.withSigner t) b call').1
      ∧ (advance p a call).2.1.redacted = (advance (p.withSigner t) b call').2.1.redacted
      ∧ (advance p a call).2.2 = (advance (p.withSigner t) b call').2.2 := by
  -- both calls are taken to the call that exposes nothing
  obtain ⟨hslot, hsigner, hnext, hemitted⟩ := advance_redacted (p := p) a call
  obtain ⟨hslot', hsigner', hnext', hemitted'⟩ := advance_redacted (p := p.withSigner t) b call'
  obtain ⟨hstate, hsame, hsame'⟩ := advance_simulated_same h hR call.redacted
  rw [hcall] at hstate hsame hsame' hslot hsigner hnext hemitted
  refine ⟨⟨?_, ?_⟩, ?_, ?_⟩
  · rw [← hslot, hstate.slot, hslot']
  · rw [← hsigner, ← hsigner']
    exact hstate.signer
  · rw [← hnext, hsame, hnext']
  · rw [← hemitted, hsame', hemitted']

theorem step_simulated (h : p.signer.Simulates t R) (hR : Simulated R c d) (i : Nat) :
    Simulated R (step p c i) (step (p.withSigner t) d i) := by
  have hmoving : (c.moving? i).map Call.redacted = (d.moving? i).map Call.redacted := by
    rw [moving?_redacted, hR.calls, moving?_redacted]
  rcases hc : c.moving? i with _ | call <;> rcases hd : d.moving? i with _ | call' <;>
    rw [hc, hd] at hmoving
  · rwa [step_of_none p hc, step_of_none _ hd]
  · cases hmoving
  · cases hmoving
  · obtain ⟨hstate, hcall, hemitted⟩ := advance_simulated h hR.state (Option.some.inj hmoving)
    rw [step_of_some p hc, step_of_some _ hd]
    refine ⟨hstate, ?_, ?_⟩
    · simp only [List.map_set, hR.calls, hcall]
    · have hsome := congrArg Option.isSome hstate.slot
      simp only [Option.isSome_map] at hsome
      simp only [hR.seen, hemitted, hsome]

theorem run_simulated (h : p.signer.Simulates t R) : ∀ (schedule : List Nat) {c : Crowd σ}
    {d : Crowd τ}, Simulated R c d →
      Simulated R (run p c schedule) (run (p.withSigner t) d schedule)
  | [], _, _, hR => hR
  | i :: schedule, _, _, hR => run_simulated h schedule (step_simulated h hR i)

theorem simulated_asking {a : State σ} {b : State τ} (hR : State.Simulated R a b)
    (nows : List Instant) : Simulated R (asking a nows) (asking b nows) :=
  ⟨hR, rfl, rfl⟩

end Crowd

open Provider Crowd

/-- Two providers that differ in their signers, and perhaps in the text of the token that they keep,
give the same to see if the signers sign and fail alike: up to the exposed texts of tokens, whoever
uses them gets the same replies, with the same emissions, errors, instants and validities, and all
is shown alike; and the signers are asked for the same as often. So it is for callers that are
interleaved, at every moment. A key shows nothing but its curve. -/
theorem secret_changes_exposed_texts_only (p : Provider σ) (t : Signer τ) {a : State σ}
    {b : State τ} (hsigner : p.signer.FailAlike t a.signer b.signer)
    (hslot : a.slot.map CachedToken.redacted = b.slot.map CachedToken.redacted) :
    (∀ us : List Use,
      (p.uses us a).1.map (Prod.map Reply.redacted id)
          = ((p.withSigner t).uses us b).1.map (Prod.map Reply.redacted id)
      ∧ (p.uses us a).1.map Prod.snd = ((p.withSigner t).uses us b).1.map Prod.snd
      ∧ (p.uses us a).1.map (·.1.error?) = ((p.withSigner t).uses us b).1.map (·.1.error?)
      ∧ (p.uses us a).1.map (·.1.instants?) = ((p.withSigner t).uses us b).1.map (·.1.instants?)
      ∧ (p.uses us a).1.map (·.1.valid?) = ((p.withSigner t).uses us b).1.map (·.1.valid?)
      ∧ (p.uses us a).1.map (·.1.texts) = ((p.withSigner t).uses us b).1.map (·.1.texts)
      ∧ (p.usesSignings us a).map SigningCall.redacted
          = ((p.withSigner t).usesSignings us b).map SigningCall.redacted
      ∧ (p.usesSignings us a).length = ((p.withSigner t).usesSignings us b).length)
    ∧ (∀ (nows : List Instant) (schedule : List Nat),
      (run p (asking a nows) schedule).seen
          = (run (p.withSigner t) (asking b nows) schedule).seen
      ∧ (run p (asking a nows) schedule).calls.map Call.redacted
          = (run (p.withSigner t) (asking b nows) schedule).calls.map Call.redacted
      ∧ (run p (asking a nows) schedule).state.slot.map CachedToken.redacted
          = (run (p.withSigner t) (asking b nows) schedule).state.slot.map CachedToken.redacted
      ∧ (signings p (asking a nows) schedule).map SigningCall.redacted
          = (signings (p.withSigner t) (asking b nows) schedule).map SigningCall.redacted)
    ∧ ∀ k k' : PrivateKey, k.curve = k'.curve → k.shown = k'.shown := by
  have hsimulates := p.signer.simulates_failAlike t
  have hR : State.Simulated (p.signer.FailAlike t) a b := ⟨hslot, hsigner⟩
  have hrecorded : State.Simulated (Signer.Recorded (p.signer.FailAlike t)) a.recorded b.recorded :=
    ⟨hslot, hsigner, rfl⟩
  refine ⟨fun us => ?_, fun nows schedule => ?_, fun k k' h => ?_⟩
  · have huses := (uses_simulated hsimulates us hR).1
    have hsignings : (p.usesSignings us a).map SigningCall.redacted
        = ((p.withSigner t).usesSignings us b).map SigningCall.redacted :=
      (uses_simulated (p := p.recorded) hsimulates.recorded us hrecorded).2.signer.2
    -- whatever can be told from a reply without its token is the same
    have hsame : ∀ {α : Type} (f : Reply × List Emission → α),
        (∀ r, f (r.map Reply.redacted id) = f r) →
        (p.uses us a).1.map f = ((p.withSigner t).uses us b).1.map f := by
      intro α f hf
      have := congrArg (List.map f) huses
      simpa only [List.map_map, Function.comp_def, hf] using this
    exact ⟨huses, hsame _ fun _ => rfl, hsame _ fun r => r.1.error?_redacted,
      hsame _ fun r => r.1.instants?_redacted, hsame _ fun r => r.1.valid?_redacted,
      hsame _ fun r => r.1.texts_redacted, hsignings,
      by simpa only [List.length_map] using congrArg List.length hsignings⟩
  · have hrun := run_simulated hsimulates schedule (simulated_asking hR nows)
    have hrun' := run_simulated (p := p.recorded) hsimulates.recorded schedule
      (simulated_asking hrecorded nows)
    exact ⟨hrun.seen, hrun.calls, hrun.state.slot, hrun'.state.signer.2⟩
  · rw [PrivateKey.shown, PrivateKey.shown, h]

/-- Methods that never fail differ in their signatures alone. -/
theorem failAlike_of_ok {m m' : SigningMethod}
    (hm : ∀ n input, ∃ signature, m n input = .ok signature)
    (hm' : ∀ n input, ∃ signature, m' n input = .ok signature) (n k : Nat) (fault : Option String) :
    m.toSigner.FailAlike m'.toSigner ⟨n, fault⟩ ⟨k, fault⟩ := by
  intro inputs
  induction inputs generalizing n k with
  | nil => rfl
  | cons input later ih =>
    refine congrArg₂ List.cons ?_ (ih (n + 1) (k + 1))
    rcases fault with _ | message
    · obtain ⟨signature, h⟩ := hm (n + 1) input
      obtain ⟨signature', h'⟩ := hm' (k + 1) input
      simp only [SigningMethod.toSigner, h, h']
      rfl
    · rfl

/-- The signatures are numbers with one signer and always the same with the other. The tokens
differ, and nothing else does. -/
theorem exposed_texts_of_counter_and_constant :
    (numbering.signer.FailAlike (SigningMethod.constant [0]).toSigner ⟨0, none⟩ ⟨0, none⟩)
      ∧ (numbering.token epoch ⟨none, ⟨0, none⟩⟩).1.token?
        ≠ ((numbering.withSigner (SigningMethod.constant [0]).toSigner).token epoch
          ⟨none, ⟨0, none⟩⟩).1.token?
      ∧ ∀ us, (numbering.uses us ⟨none, ⟨0, none⟩⟩).1.map Prod.snd
        = ((numbering.withSigner (SigningMethod.constant [0]).toSigner).uses us
          ⟨none, ⟨0, none⟩⟩).1.map Prod.snd := by
  have halike : SigningMethod.counter.toSigner.FailAlike (SigningMethod.constant [0]).toSigner
      ⟨0, none⟩ ⟨0, none⟩ := failAlike_of_ok (fun _ _ => ⟨_, rfl⟩) (fun _ _ => ⟨_, rfl⟩) 0 0 none
  refine ⟨halike, by decide, fun us => ?_⟩
  exact ((secret_changes_exposed_texts_only numbering _ (a := ⟨none, _⟩) (b := ⟨none, _⟩) halike
    rfl).1 us).2.1

end Token

end BearerAuth
