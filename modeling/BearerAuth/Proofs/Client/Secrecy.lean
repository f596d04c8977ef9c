import BearerAuth.Proofs.Client.Counting

/-!
# What others see of a credential

The client shows method and address of a request and its headers, and in the headers it puts
`redactedCredential` into the place of the credential (`departure_withCredential`,
`arrival_withCredential`). The rest of what it shows it has from the transport. So with a transport
that is blind to credentials one legal token gives the same signals and the same result as another
(`execute_congr`).

Requests side by side show what they would show if their tokens were masked and their credentials
redacted from the start (`run_masked`): step by step, the masked run sees to the same signals.
-/

namespace BearerAuth

open Http Network Time

variable {σ : Type}

/-- The request with one credential, in the place of any that it has. -/
def Http.Request.withCredential (r : Request) (v : HeaderValue) : Request :=
  { r with headers := r.headers.set .authorization v }

theorem Http.Request.withCredential_withCredential (r : Request) (v w : HeaderValue) :
    (r.withCredential v).withCredential w = r.withCredential w := by
  simp only [withCredential, Headers.set_set]

/-- The milestones that a transport reaches on the network. -/
def Milestone.ofNetwork : Milestone → Bool
  | lookupStart _ | lookupDone .. | dialStart | dialDone _ => true
  | _ => false

section Activity

variable {η κ : Type} {bound : Nat → Option η} {report : η × Milestone}

theorem ofNetwork_of_mem_reportTo {hook : Option η} {m : Milestone} (hm : m.ofNetwork)
    (h : report ∈ reportTo hook m) : report.2.ofNetwork := by
  obtain ⟨_, -, rfl⟩ := List.mem_map.1 h
  exact hm

theorem ofNetwork_of_mem_advance {operations : List (Operation η κ)} {x : ActivityStep κ}
    (h : report ∈ (advance bound operations x).2) : report.2.ofNetwork := by
  cases x with
  | dial task | lookUp task host => exact ofNetwork_of_mem_reportTo rfl h
  | resolve host => cases h
  | poll i task | dialEnds i result =>
    simp only [advance] at h
    split at h
    · exact ofNetwork_of_mem_reportTo rfl h
    · cases h
  | lookupEnds i result =>
    simp only [advance] at h
    split at h
    · exact ofNetwork_of_mem_reportTo (by cases result <;> rfl) h
    · cases h
  | drop i =>
    simp only [advance] at h
    split at h <;> cases h

theorem ofNetwork_of_mem_activity : ∀ (xs : List (ActivityStep κ))
    {operations : List (Operation η κ)},
      report ∈ (activity bound operations xs).2 → report.2.ofNetwork
  | [], _, h => by cases h
  | x :: xs, operations, h => by
    rcases List.mem_append.1 h with h | h
    · exact ofNetwork_of_mem_advance h
    · exact ofNetwork_of_mem_activity xs h

end Activity

theorem Exchange.ofNetwork_of_mem_milestones {e : Exchange} {m : Milestone}
    (h : m ∈ e.milestones) : m.ofNetwork := by
  obtain ⟨report, hreport, rfl⟩ := List.mem_map.1 h
  exact ofNetwork_of_mem_activity _ hreport

/-- What comes of a request, and what it meets with on the network, does not depend on the octets of
its credential. -/
def Transport.IsBlind (t : Transport σ) : Prop :=
  ∀ (r : Request) (v w : HeaderValue) (s : σ), v.sensitive = w.sensitive →
    (t.execute (r.withCredential v) s).1.reply = (t.execute (r.withCredential w) s).1.reply
      ∧ (t.execute (r.withCredential v) s).1.milestones
        = (t.execute (r.withCredential w) s).1.milestones

namespace Client

variable (c : Client σ)

theorem departure_withCredential (r : Request) (v : HeaderValue) :
    c.departure (r.withCredential v) = c.departure r := by
  simp only [departure, Request.withCredential, Headers.set_set, about]

theorem arrival_withCredential (r : Request) (v : HeaderValue) (e : Exchange) :
    c.arrival (r.withCredential v) e = c.arrival r e := rfl

theorem arrival_congr (r : Request) {e e' : Exchange} (hreply : e.reply = e'.reply)
    (hmilestones : e.milestones = e'.milestones) : c.arrival r e = c.arrival r e' := by
  simp only [arrival, hreply, hmilestones]

/-- A request as it is handed to the transport, but for its credential. -/
def timed (elapsed : Duration) (r : Request) : Request :=
  { r with timeout := deadline c.timeout elapsed r.timeout }

theorem prepared_eq (v : HeaderValue) (elapsed : Duration) (r : Request) :
    c.prepared v elapsed r = (c.timed elapsed r).withCredential v := rfl

variable {c}

theorem execute_congr (hblind : c.transport.IsBlind) {a b : Token.Secret} (ha : a.IsLegal)
    (hb : b.IsLegal) (elapsed : Duration) (r : Request) (s : σ) :
    (c.execute (.ok a) elapsed r s).signals = (c.execute (.ok b) elapsed r s).signals
      ∧ (c.execute (.ok a) elapsed r s).result = (c.execute (.ok b) elapsed r s).result := by
  obtain ⟨v, hv, hsensitive⟩ := exists_credential? ha
  obtain ⟨w, hw, hsensitive'⟩ := exists_credential? hb
  obtain ⟨hreply, hmilestones⟩ :=
    hblind (c.timed elapsed r) v w s (hsensitive.trans hsensitive'.symm)
  rw [execute_of_legal c elapsed r s hv, execute_of_legal c elapsed r s hw]
  simp only [prepared_eq, departure_withCredential, arrival_withCredential, hreply, hmilestones,
    c.arrival_congr _ hreply hmilestones, and_self]

theorem mem_reach {m : Milestone} {ms : List Milestone} :
    .reached m ∈ c.reach ms ↔ c.settings.trace.isSome ∧ m ∈ ms := by
  unfold reach
  split_ifs with h <;> simp [h]

variable {method : String} {url : Url} {headers : Headers}

theorem wroteHeaders_mem_departure {r : Request} :
    .reached (.wroteHeaders method url headers) ∈ c.departure r ↔
      c.settings.trace.isSome ∧ method = r.method ∧ url = r.url
        ∧ headers = r.headers.set .authorization redactedCredential := by
  simp [departure, mem_reach]

theorem wroteHeaders_not_mem_arrival (r : Request) (e : Exchange) :
    .reached (.wroteHeaders method url headers) ∉ c.arrival r e := by
  unfold arrival
  split <;> simp [mem_reach]

theorem wroteHeaders_not_mem_reach (e : Exchange) :
    .reached (.wroteHeaders method url headers) ∉ c.reach e.milestones := by
  intro h
  cases Exchange.ofNetwork_of_mem_milestones (mem_reach.1 h).2

/-- Headers are shown under a hook when a request is dispatched, with the credential redacted. -/
theorem wroteHeaders_mem_execute (token : Except Error Token.Secret) (elapsed : Duration)
    (r : Request) (s : σ) :
    .reached (.wroteHeaders method url headers) ∈ (c.execute token elapsed r s).signals ↔
      c.settings.trace.isSome ∧ (∃ t, token = .ok t ∧ t.IsLegal) ∧ method = r.method ∧ url = r.url
        ∧ headers = r.headers.set .authorization redactedCredential := by
  rcases token with e | t
  · simp [execute_of_error, refusal]
  rcases h : credential? t with _ | v
  · have hillegal := credential?_eq_none_iff.1 h
    simp [execute_of_illegal c elapsed r s h, hillegal]
  · have hlegal := isLegal_of_credential? h
    rw [execute_of_legal c elapsed r s h]
    simp [prepared_eq, departure_withCredential, wroteHeaders_mem_departure,
      wroteHeaders_not_mem_arrival, wroteHeaders_not_mem_reach, hlegal, timed]

end Client

/-- A token that is legal if this one is, and says nothing else of it. -/
def Token.Secret.masked (t : Token.Secret) : Token.Secret :=
  if t.IsLegal then ⟨redaction⟩ else ⟨"\n"⟩

theorem Token.Secret.isLegal_masked {t : Token.Secret} : t.masked.IsLegal ↔ t.IsLegal := by
  unfold masked
  split_ifs with h
  · exact iff_of_true (by decide +kernel) h
  · exact iff_of_false (by decide +kernel) h

theorem Token.Secret.masked_masked (t : Token.Secret) : t.masked.masked = t.masked := by
  show (if t.masked.IsLegal then _ else _) = if t.IsLegal then _ else _
  simp only [isLegal_masked]

/-- The step with its token masked, and the credentials with which the request arrived redacted. -/
def TrafficStep.masked : TrafficStep → TrafficStep
  | call token elapsed r =>
    call (token.map Token.Secret.masked) elapsed (r.withCredential redactedCredential)
  | move i x => move i x

theorem TrafficStep.masked_masked (x : TrafficStep) : x.masked.masked = x.masked := by
  cases x with
  | call token elapsed r =>
    rcases token with e | t <;>
      simp only [masked, Except.map, Http.Request.withCredential_withCredential,
        Token.Secret.masked_masked]
  | move i x => rfl

def Trip.redacted : Trip → Trip
  | underway r activity => underway (r.withCredential redactedCredential) activity
  | trip => trip

def Traffic.redacted (w : Traffic) : Traffic :=
  ⟨w.trips.map Trip.redacted, w.signals⟩

theorem Trip.redacted_redacted (t : Trip) : t.redacted.redacted = t.redacted := by
  cases t with
  | underway r activity => simp only [redacted, Http.Request.withCredential_withCredential]
  | _ => rfl

theorem Trip.result?_redacted (t : Trip) : t.redacted.result? = t.result? := by
  cases t <;> rfl

theorem Traffic.results_redacted (w : Traffic) : w.redacted.results = w.results := by
  have hresult : Trip.result? ∘ Trip.redacted = Trip.result? := funext Trip.result?_redacted
  simp only [results, redacted, List.filterMap_map, hresult]

namespace Client

variable (c : Client σ)

theorem prepared_withCredential (v w : HeaderValue) (elapsed : Duration) (r : Request) :
    c.prepared v elapsed (r.withCredential w) = c.prepared v elapsed r :=
  (c.timed elapsed r).withCredential_withCredential w v

/-- What is shown of a call, and what others will see of its request, is that of the masked call. -/
theorem depart_masked (token : Except Error Token.Secret) (elapsed : Duration) (r : Request) :
    (c.depart (token.map Token.Secret.masked) elapsed
        (r.withCredential redactedCredential)).1.redacted = (c.depart token elapsed r).1.redacted
      ∧ (c.depart (token.map Token.Secret.masked) elapsed
        (r.withCredential redactedCredential)).2 = (c.depart token elapsed r).2 := by
  rcases token with e | t
  · exact ⟨rfl, rfl⟩
  rcases h : credential? t with _ | v
  · have hmasked : credential? t.masked = none :=
      credential?_eq_none_iff.2 (mt Token.Secret.isLegal_masked.1 (credential?_eq_none_iff.1 h))
    rw [Except.map, c.depart_of_illegal h, c.depart_of_illegal hmasked]
    exact ⟨rfl, rfl⟩
  · obtain ⟨w, hmasked, -⟩ :=
      exists_credential? (Token.Secret.isLegal_masked.2 (isLegal_of_credential? h))
    rw [Except.map, c.depart_of_legal h, c.depart_of_legal hmasked, prepared_withCredential]
    simp only [prepared_eq, Trip.redacted, Request.withCredential_withCredential,
      departure_withCredential, and_self]

theorem travel_redacted (t : Trip) (x : TripStep) :
    (c.travel t.redacted x).1 = (c.travel t x).1.redacted
      ∧ (c.travel t.redacted x).2 = (c.travel t x).2 := by
  cases t with
  | underway r activity => cases x <;> exact ⟨rfl, rfl⟩
  | refused | rejected | answered | dropped => exact ⟨rfl, rfl⟩

/-- Up to credentials, a step does what the masked step does, and both show the same. -/
theorem step_masked (w : Traffic) (x : TrafficStep) :
    (c.step w.redacted x.masked).redacted = (c.step w x).redacted := by
  have hidem : Trip.redacted ∘ Trip.redacted = Trip.redacted := funext Trip.redacted_redacted
  cases x with
  | call token elapsed r =>
    obtain ⟨htrip, hsignals⟩ := c.depart_masked token elapsed r
    simp only [TrafficStep.masked, step, Traffic.redacted, List.map_append, List.map_map, hidem,
      List.map_singleton, htrip, hsignals]
  | move i x =>
    simp only [TrafficStep.masked, step, Traffic.redacted, List.getElem?_map]
    rcases w.trips[i]? with _ | t
    · simp only [Option.map_none, List.map_map, hidem]
    · obtain ⟨htrip, hsignals⟩ := c.travel_redacted t x
      simp only [Option.map_some, List.map_set, List.map_map, hidem, htrip, hsignals,
        Trip.redacted_redacted]

theorem run_masked (steps : List TrafficStep) :
    (c.run (steps.map TrafficStep.masked)).redacted = (c.run steps).redacted := by
  induction steps using List.reverseRecOn with
  | nil => rfl
  | append_singleton steps x ih =>
    rw [List.map_append, List.map_singleton, run_append_singleton, run_append_singleton,
      ← step_masked, ih, TrafficStep.masked_masked, step_masked]

theorem run_congr {steps steps' : List TrafficStep}
    (h : steps.map TrafficStep.masked = steps'.map TrafficStep.masked) :
    (c.run steps).signals = (c.run steps').signals
      ∧ (c.run steps).results = (c.run steps').results := by
  have hrun : (c.run steps).redacted = (c.run steps').redacted := by
    rw [← run_masked, h, run_masked]
  refine ⟨congrArg (·.signals) hrun, ?_⟩
  rw [← Traffic.results_redacted, hrun, Traffic.results_redacted]

/-- No observer can tell legal tokens apart. With a transport that is blind to credentials, a
request gives the same signals with one as with another, so that the same reaches the logger and the
hook and the same is counted, and it has the same result. Headers are shown only with the credential
redacted, whatever the request arrived with. And requests side by side, whatever the network does
for them, show the same if they differ in nothing but legal tokens and the credentials with which
they arrived. -/
theorem credentials_hidden_from_observers (c : Client σ) :
    (c.transport.IsBlind → ∀ (elapsed : Duration) (r : Request) (s : σ) (a b : Token.Secret),
      a.IsLegal → b.IsLegal →
      (c.execute (.ok a) elapsed r s).signals = (c.execute (.ok b) elapsed r s).signals
      ∧ (c.execute (.ok a) elapsed r s).signals.flatMap (·.receipts c.settings)
        = (c.execute (.ok b) elapsed r s).signals.flatMap (·.receipts c.settings)
      ∧ counted (c.execute (.ok a) elapsed r s).signals
        = counted (c.execute (.ok b) elapsed r s).signals
      ∧ (c.execute (.ok a) elapsed r s).result = (c.execute (.ok b) elapsed r s).result)
    ∧ (∀ token elapsed r s,
      ((∃ method url headers,
          .reached (.wroteHeaders method url headers) ∈ (c.execute token elapsed r s).signals)
        ↔ c.settings.trace.isSome ∧ ∃ t, token = .ok t ∧ t.IsLegal)
      ∧ ∀ method url headers,
        .reached (.wroteHeaders method url headers) ∈ (c.execute token elapsed r s).signals →
        method = r.method ∧ url = r.url
        ∧ (headers.values .authorization).map HeaderValue.octets
          = [Bytes.ofText "Bearer <redacted>"]
        ∧ ∀ name, name ≠ .authorization → headers.values name = r.headers.values name)
    ∧ ∀ steps steps' : List TrafficStep,
      steps.map TrafficStep.masked = steps'.map TrafficStep.masked →
      (c.run steps).signals = (c.run steps').signals
        ∧ (c.run steps).results = (c.run steps').results := by
  refine ⟨fun hblind elapsed r s a b ha hb => ?_, fun token elapsed r s => ⟨?_, ?_⟩,
    fun steps steps' => c.run_congr⟩
  · obtain ⟨hsignals, hresult⟩ := execute_congr hblind ha hb elapsed r s
    rw [hsignals]
    exact ⟨rfl, rfl, rfl, hresult⟩
  · simp only [wroteHeaders_mem_execute]
    exact ⟨fun ⟨_, _, _, htrace, htoken, _⟩ => ⟨htrace, htoken⟩,
      fun ⟨htrace, htoken⟩ => ⟨_, _, _, htrace, htoken, rfl, rfl, rfl⟩⟩
  · intro method url headers hmem
    obtain ⟨-, -, hmethod, hurl, rfl⟩ := (wroteHeaders_mem_execute token elapsed r s).1 hmem
    refine ⟨hmethod, hurl, ?_, fun name hne => r.headers.values_set_of_ne hne⟩
    rw [Headers.values_set_self]
    rfl

/-- A client with a hook, over a transport that keeps what it is handed. -/
def keepingClient : Client (Unit × List Request) :=
  Client.recorded { offlineClient with settings.trace := some (.observer 0) }

/-- The transport has kept two different credentials, and all that is seen is the same. -/
theorem credentials_hidden_of_two_tokens :
    keepingClient.transport.IsBlind
      ∧ (keepingClient.execute (.ok ⟨"a"⟩) .zero exampleRequest ((), [])).state
        ≠ (keepingClient.execute (.ok ⟨"b"⟩) .zero exampleRequest ((), [])).state
      ∧ (keepingClient.execute (.ok ⟨"a"⟩) .zero exampleRequest ((), [])).signals
        = (keepingClient.execute (.ok ⟨"b"⟩) .zero exampleRequest ((), [])).signals := by
  have hblind : keepingClient.transport.IsBlind := fun _ _ _ _ _ => ⟨rfl, rfl⟩
  refine ⟨hblind, by decide +kernel, ?_⟩
  exact ((credentials_hidden_from_observers keepingClient).1 hblind _ _ _ _ _ (by decide +kernel)
    (by decide +kernel)).1

end Client

end BearerAuth
