import BearerAuth.Client.Traffic
import BearerAuth.Proofs.Client.Dispatch
import Mathlib.Data.List.Induction

/-!
# How requests are counted

A request counts when there is something for its caller to get: under a token failure if its
provider had no token, and under a response or a transport failure if the transport was done with
it. The exception is a request whose token cannot stand in a header. Its caller gets an error, and
nothing is counted (`counted_depart`). So at every moment of a run the outcomes that were counted
are those of the requests that have come to an end (`counted_run`), and they are fewer than the
results by exactly the requests with an illegal token (`counts_results_but_illegal`). A request that
is executed on its own is a run of one trip (`exists_run_eq_execute`).
-/

namespace BearerAuth

open Http Network Time

variable {σ : Type}

/-- The outcomes that some signals count. -/
def counted (signals : List Signal) : List RequestOutcome :=
  signals.filterMap fun
    | .counted o => some o
    | _ => none

@[simp]
theorem counted_append (xs ys : List Signal) : counted (xs ++ ys) = counted xs ++ counted ys :=
  List.filterMap_append

/-- The outcome that a trip counts under. -/
def Trip.outcome? : Trip → Option RequestOutcome
  | refused _ => some .tokenFailure
  | answered (.ok _) => some .response
  | answered (.error _) => some .transportFailure
  | rejected | underway .. | dropped => none

def Trip.isRefused : Trip → Bool
  | refused _ => true
  | _ => false

def Trip.isRejected : Trip → Bool
  | rejected => true
  | _ => false

namespace TrafficStep

/-- Whether the step is a call whose provider has no token. -/
def isFailedCall : TrafficStep → Bool
  | call (.error _) .. => true
  | _ => false

/-- Whether the step is a call whose token cannot stand in a header. -/
def isIllegalCall : TrafficStep → Bool
  | call (.ok t) .. => !decide t.IsLegal
  | _ => false

end TrafficStep

namespace Traffic

variable (w : Traffic)

def outcomes : List RequestOutcome :=
  w.trips.filterMap Trip.outcome?

/-- What the callers got. -/
def results : List (Except Error Response) :=
  w.trips.filterMap Trip.result?

theorem count_response_outcomes :
    w.outcomes.count .response = w.results.countP Except.isOk := by
  rw [outcomes, results, List.count_filterMap, List.countP_filterMap]
  refine List.countP_congr fun t _ => ?_
  rcases t with _ | _ | _ | (_ | _) | _ <;> exact Iff.rfl

theorem count_tokenFailure_outcomes :
    w.outcomes.count .tokenFailure = w.trips.countP Trip.isRefused := by
  rw [outcomes, List.count_filterMap]
  refine List.countP_congr fun t _ => ?_
  rcases t with _ | _ | _ | (_ | _) | _ <;> exact Iff.rfl

/-- A trip with a result has an outcome or was rejected, and not both. -/
theorem length_results :
    w.results.length = w.outcomes.length + w.trips.countP Trip.isRejected := by
  obtain ⟨trips, signals⟩ := w
  induction trips with
  | nil => rfl
  | cons t trips ih =>
    simp only [outcomes, results] at ih ⊢
    rcases t with _ | _ | _ | (_ | _) | _ <;>
      simp [List.filterMap_cons, List.countP_cons, Trip.result?, Trip.outcome?, Trip.isRejected,
        ih] <;> omega

end Traffic

theorem RequestOutcome.length_eq_counts (os : List RequestOutcome) :
    os.length = os.count .response + os.count .tokenFailure + os.count .transportFailure := by
  induction os with
  | nil => rfl
  | cons o os ih => cases o <;> simp [ih] <;> omega

namespace Client

variable (c : Client σ)

@[simp]
theorem counted_reach (ms : List Milestone) : counted (c.reach ms) = [] := by
  unfold reach
  split_ifs
  · induction ms with
    | nil => rfl
    | cons m ms ih => exact ih
  · rfl

@[simp]
theorem counted_departure (r : Request) : counted (c.departure r) = [] := by
  rw [departure, counted_append, counted_reach]
  rfl

theorem counted_arrival (r : Request) (e : Exchange) :
    counted (c.arrival r e) = (Trip.answered e.reply).outcome?.toList := by
  unfold arrival
  rcases e.reply with failure | response <;> simp only [counted_append, counted_reach] <;> rfl

theorem depart_of_illegal {t : Token.Secret} (h : credential? t = none) (elapsed : Duration)
    (r : Request) : c.depart (.ok t) elapsed r = (.rejected, []) := by
  simp only [depart, h]

theorem depart_of_legal {t : Token.Secret} {v : HeaderValue} (h : credential? t = some v)
    (elapsed : Duration) (r : Request) : c.depart (.ok t) elapsed r =
      (.underway (c.prepared v elapsed r) [], c.departure (c.prepared v elapsed r)) := by
  simp only [depart, h]

theorem counted_depart (token : Except Error Token.Secret) (elapsed : Duration) (r : Request) :
    counted (c.depart token elapsed r).2 = (c.depart token elapsed r).1.outcome?.toList := by
  rcases token with e | t
  · rfl
  rcases h : credential? t with _ | v
  · rw [c.depart_of_illegal h]
    rfl
  · rw [c.depart_of_legal h]
    exact c.counted_departure _

theorem counted_travel (t : Trip) (x : TripStep) :
    t.outcome?.toList ++ counted (c.travel t x).2 = (c.travel t x).1.outcome?.toList := by
  cases t with
  | underway r activity =>
    cases x with
    | network x => exact c.counted_reach _
    | finish reply => exact c.counted_arrival r ⟨activity, reply⟩
    | drop => rfl
  | refused | rejected | answered | dropped => exact List.append_nil _

theorem step_move {w : Traffic} {i : Nat} {t : Trip} (x : TripStep) (h : w.trips[i]? = some t) :
    ∃ before after, w.trips = before ++ t :: after ∧ c.step w (.move i x) =
      ⟨before ++ (c.travel t x).1 :: after, w.signals ++ (c.travel t x).2⟩ := by
  obtain ⟨hlt, ht⟩ := List.getElem?_eq_some_iff.1 h
  refine ⟨w.trips.take i, w.trips.drop (i + 1), ?_, ?_⟩
  · rw [← ht, List.getElem_cons_drop, List.take_append_drop]
  · simp only [step, h, List.set_eq_take_append_cons_drop, if_pos hlt]

theorem step_move_of_none {w : Traffic} {i : Nat} (x : TripStep) (h : w.trips[i]? = none) :
    c.step w (.move i x) = w := by
  simp only [step, h]

theorem counted_step {w : Traffic} (h : (counted w.signals).Perm w.outcomes) (x : TrafficStep) :
    (counted (c.step w x).signals).Perm (c.step w x).outcomes := by
  cases x with
  | call token elapsed r =>
    simp only [step, Traffic.outcomes, counted_append, List.filterMap_append, counted_depart]
    refine h.append ?_
    rw [List.filterMap_eq_flatMap_toList, List.flatMap_singleton]
  | move i x =>
    rcases hi : w.trips[i]? with _ | t
    · rwa [c.step_move_of_none x hi]
    obtain ⟨before, after, htrips, hstep⟩ := c.step_move x hi
    rw [Traffic.outcomes, htrips] at h
    rw [hstep]
    -- the outcome stands at the place of its trip, and is counted now: only the order differs
    simp only [Traffic.outcomes, counted_append, List.filterMap_eq_flatMap_toList,
      List.flatMap_append, List.flatMap_cons, ← counted_travel c t x] at h ⊢
    refine (h.append_right _).trans ?_
    simp only [List.append_assoc]
    exact (List.perm_append_comm.append_left _).append_left _

theorem run_append_singleton (steps : List TrafficStep) (x : TrafficStep) :
    c.run (steps ++ [x]) = c.step (c.run steps) x := by
  rw [run, List.foldl_append]
  rfl

theorem counted_run (steps : List TrafficStep) :
    (counted (c.run steps).signals).Perm (c.run steps).outcomes := by
  induction steps using List.reverseRecOn with
  | nil => exact .refl _
  | append_singleton steps x ih =>
    rw [run_append_singleton]
    exact c.counted_step ih x

section Kinds

variable {p : Trip → Bool} {q : TrafficStep → Bool}

/-- What is decided by the call of a trip and kept on its way can be counted among the calls. -/
theorem countP_trips_run
    (hcall : ∀ token elapsed r, p (c.depart token elapsed r).1 = q (.call token elapsed r))
    (hmove : ∀ i x, q (.move i x) = false) (htravel : ∀ t x, p (c.travel t x).1 = p t)
    (steps : List TrafficStep) : (c.run steps).trips.countP p = steps.countP q := by
  induction steps using List.reverseRecOn with
  | nil => rfl
  | append_singleton steps x ih =>
    rw [List.countP_append, ← ih, run_append_singleton]
    cases x with
    | call token elapsed r =>
      simp only [step, List.countP_append, List.countP_singleton, hcall]
    | move i x =>
      rw [List.countP_singleton, hmove i x]
      rcases hi : (c.run steps).trips[i]? with _ | t
      · rw [c.step_move_of_none x hi]
        rfl
      · obtain ⟨before, after, htrips, hstep⟩ := c.step_move x hi
        rw [hstep, htrips]
        simp [List.countP_append, List.countP_cons, htravel]

end Kinds

theorem countP_isRefused_run (steps : List TrafficStep) :
    (c.run steps).trips.countP Trip.isRefused = steps.countP TrafficStep.isFailedCall := by
  refine c.countP_trips_run (fun token elapsed r => ?_) (fun i x => rfl) (fun t x => ?_) steps
  · rcases token with e | t
    · rfl
    rcases h : credential? t with _ | v
    · rw [c.depart_of_illegal h]
      rfl
    · rw [c.depart_of_legal h]
      rfl
  · cases t with
    | underway => cases x <;> rfl
    | refused | rejected | answered | dropped => rfl

theorem countP_isRejected_run (steps : List TrafficStep) :
    (c.run steps).trips.countP Trip.isRejected = steps.countP TrafficStep.isIllegalCall := by
  refine c.countP_trips_run (fun token elapsed r => ?_) (fun i x => rfl) (fun t x => ?_) steps
  · rcases token with e | t
    · rfl
    rcases h : credential? t with _ | v
    · rw [c.depart_of_illegal h]
      simp [Trip.isRejected, TrafficStep.isIllegalCall, credential?_eq_none_iff.1 h]
    · rw [c.depart_of_legal h]
      simp [Trip.isRejected, TrafficStep.isIllegalCall,
        credential?_isSome_iff.1 (Option.isSome_of_eq_some h)]
  · cases t with
    | underway => cases x <;> rfl
    | refused | rejected | answered | dropped => rfl

theorem reach_append (ms ms' : List Milestone) :
    c.reach (ms ++ ms') = c.reach ms ++ c.reach ms' := by
  unfold reach
  split_ifs
  · exact List.map_append
  · rfl

theorem foldl_step_network (r : Request) (xs : List (ActivityStep String)) :
    ∀ activity signals, (xs.map fun x => TrafficStep.move 0 (.network x)).foldl c.step
        ⟨[.underway r activity], signals⟩
      = ⟨[.underway r (activity ++ xs)], signals ++ c.reach
        ((Network.activity ownTask (Network.activity ownTask [] activity).1 xs).2.map (·.2))⟩ := by
  induction xs with
  | nil =>
    intro activity signals
    have hreach : c.reach [] = [] := by
      unfold reach
      split_ifs <;> rfl
    simp [Network.activity, hreach]
  | cons x xs ih =>
    intro activity signals
    have hstep : c.step ⟨[.underway r activity], signals⟩ (.move 0 (.network x)) =
        ⟨[.underway r (activity ++ [x])], signals ++ c.reach (nextMilestones activity x)⟩ := rfl
    rw [List.map_cons, List.foldl_cons, hstep, ih]
    simp only [Network.activity_append, Network.activity, nextMilestones, List.map_append,
      reach_append, List.append_assoc, List.cons_append, List.nil_append]

theorem exists_run_eq_execute (token : Except Error Token.Secret) (elapsed : Duration) (r : Request)
    (s : σ) : ∃ e : Exchange, ∃ trip : Trip,
      c.run (.call token elapsed r ::
        (e.activity.map fun x => .move 0 (.network x)) ++ [.move 0 (.finish e.reply)])
        = ⟨[trip], (c.execute token elapsed r s).signals⟩
      ∧ trip.result? = some (c.execute token elapsed r s).result := by
  rcases token with e | t
  · refine ⟨⟨[], .error .invalidHeader⟩, .refused e, ?_, rfl⟩
    simp [run, step, depart, travel, execute_of_error]
  rcases h : credential? t with _ | v
  · refine ⟨⟨[], .error .invalidHeader⟩, .rejected, ?_, ?_⟩ <;>
      simp [run, step, depart, travel, Trip.result?, execute_of_illegal c elapsed r s h, h]
  · rw [execute_of_legal c elapsed r s h]
    refine ⟨(c.transport.execute (c.prepared v elapsed r) s).1, .answered _, ?_, rfl⟩
    have hcall : c.step ⟨[], []⟩ (.call (.ok t) elapsed r) =
        ⟨[.underway (c.prepared v elapsed r) []], c.departure (c.prepared v elapsed r)⟩ := by
      simp only [step, depart, h, List.nil_append]
    rw [run, List.cons_append, List.foldl_cons, hcall, List.foldl_append, foldl_step_network]
    rfl

/-- What comes of one request is counted under exactly one outcome, that of its result, unless there
is a token for it that cannot stand in a header: then nothing is counted. So at every moment of a
run the counters add up to the results of the requests without an illegal token. -/
theorem counts_results_but_illegal :
    (∀ token elapsed r (s : σ),
      ((∀ t, token = .ok t → t.IsLegal) → ∃ o,
        counted (c.execute token elapsed r s).signals = [o]
        ∧ (o = .response ↔ (c.execute token elapsed r s).result.isOk)
        ∧ (o = .tokenFailure ↔ ∃ e, token = .error e))
      ∧ ∀ t, token = .ok t → ¬ t.IsLegal →
        counted (c.execute token elapsed r s).signals = []
        ∧ (c.execute token elapsed r s).result = .error (.request .invalidHeader))
    ∧ ∀ steps,
      (counted (c.run steps).signals).count .response = (c.run steps).results.countP Except.isOk
      ∧ (counted (c.run steps).signals).count .tokenFailure
        = steps.countP TrafficStep.isFailedCall
      ∧ (counted (c.run steps).signals).count .response
        + (counted (c.run steps).signals).count .tokenFailure
        + (counted (c.run steps).signals).count .transportFailure
        + steps.countP TrafficStep.isIllegalCall = (c.run steps).results.length := by
  refine ⟨fun token elapsed r s => ?_, fun steps => ?_⟩
  · rcases token with e | t
    · refine ⟨fun _ => ⟨.tokenFailure, rfl, ?_, ?_⟩, ?_⟩ <;>
        simp [execute_of_error, Except.isOk, Except.toBool]
    rcases h : credential? t with _ | v
    · have hillegal := credential?_eq_none_iff.1 h
      refine ⟨fun hlegal => absurd (hlegal t rfl) hillegal, fun _ _ _ => ?_⟩
      rw [execute_of_illegal c elapsed r s h]
      exact ⟨rfl, rfl⟩
    · have hlegal : t.IsLegal := credential?_isSome_iff.1 (Option.isSome_of_eq_some h)
      refine ⟨fun _ => ?_, fun t' ht hnot => ?_⟩
      · rw [execute_of_legal c elapsed r s h]
        simp only [counted_append, counted_departure, counted_reach, counted_arrival,
          List.nil_append]
        rcases (c.transport.execute (c.prepared v elapsed r) s).1.reply with failure | response
        · exact ⟨.transportFailure, rfl, by simp [Except.mapError, Except.isOk, Except.toBool]⟩
        · exact ⟨.response, rfl, by simp [Except.mapError, Except.isOk, Except.toBool]⟩
      · cases ht
        exact absurd hlegal hnot
  · have hperm := c.counted_run steps
    refine ⟨?_, ?_, ?_⟩
    · rw [hperm.count_eq, Traffic.count_response_outcomes]
    · rw [hperm.count_eq, Traffic.count_tokenFailure_outcomes, countP_isRefused_run]
    · rw [← RequestOutcome.length_eq_counts, hperm.length_eq, ← countP_isRejected_run,
        Traffic.length_results]

end Client

def exampleUrl : Url :=
  ⟨"https".toList, some ⟨[], none, .name "api.example.com".toList, none⟩, .rooted ['/'], none, none⟩

def exampleRequest : Request := ⟨"GET", exampleUrl, .empty, none, []⟩

/-- A client without a network. -/
def offlineClient : Client Unit :=
  ⟨exampleUrl, ⟨fun _ s => (⟨[], .error (.network .undescribed)⟩, s), .zero, fun s => ([], s)⟩,
    .zero, .initial⟩

/-- A token that is two lines. -/
def twoLines : Token.Secret := ⟨"a\nb"⟩

/-- The caller gets an error, and no counter moves. -/
theorem Client.uncounted_of_two_lines :
    (offlineClient.execute (.ok twoLines) .zero exampleRequest ()).result
        = .error (.request .invalidHeader)
      ∧ counted (offlineClient.execute (.ok twoLines) .zero exampleRequest ()).signals = []
      ∧ (offlineClient.run [.call (.ok twoLines) .zero exampleRequest]).results.length = 1
      ∧ counted (offlineClient.run [.call (.ok twoLines) .zero exampleRequest]).signals = [] := by
  have h : credential? twoLines = none := by decide +kernel
  rw [Client.execute_of_illegal _ _ _ _ h]
  refine ⟨rfl, rfl, ?_, ?_⟩ <;>
    simp [Client.run, Client.step, Client.depart, h, Traffic.results, Trip.result?, counted]

end BearerAuth
