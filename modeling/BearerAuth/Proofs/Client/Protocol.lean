import BearerAuth.Client.Junction
import BearerAuth.Proofs.Client.Secrecy
import BearerAuth.Proofs.Network.Activity

/-!
# Which milestones a request passes

A request that is handed to the transport passes the milestones of its `course`: two before that,
then those of its own dials and lookups, then those of what came of it. So it is for one request
that is executed (`reached_execute_of_legal`). For requests side by side, the invariant `Traces` of
every step says what is shown of one of them: what would be shown if its own dials and lookups were
all that the network does. The dials and lookups of the others go past it, for they have not taken
its scope (`advance_via`, `traces_network_of_quiet`). When the transport is done with a request,
none of its dials and lookups may be left that could still report, or the milestones of its course
would not be the last (`IsTidy`).
-/

namespace BearerAuth

open Http Network Time

variable {σ : Type}

/-- The milestones that some signals reach. -/
def reached (signals : List Signal) : List Milestone :=
  signals.filterMap fun
    | .reached m => some m
    | _ => none

@[simp]
theorem reached_append (xs ys : List Signal) : reached (xs ++ ys) = reached xs ++ reached ys :=
  List.filterMap_append

theorem reached_map (ms : List Milestone) : reached (ms.map .reached) = ms := by
  induction ms with
  | nil => rfl
  | cons m ms ih => exact congrArg (m :: ·) ih

/-- The milestones before a request is handed to the transport. -/
def opening (r : Request) : List Milestone :=
  [.getConnection r.url.hostPort,
    .wroteHeaders r.method r.url (r.headers.set .authorization redactedCredential)]

/-- The milestones of what came of a request, if anything has, after those of its dials and
lookups. -/
def ending (network : List Milestone) : Option (Except RequestError Response) → List Milestone
  | none => []
  | some (.ok response) =>
    [.gotConnection response.remote response.version (.dialStart ∉ network),
      .gotFirstByte response.status]
  | some (.error failure) => [.requestFailed failure.message]

/-- All milestones of a request, with those of its dials and lookups. -/
def course (r : Request) (network : List Milestone)
    (reply : Option (Except RequestError Response)) : List Milestone :=
  opening r ++ network ++ ending network reply

namespace Client

variable {c : Client σ}

theorem reach_of_isSome (h : c.settings.trace.isSome = true) (ms : List Milestone) :
    c.reach ms = ms.map .reached :=
  if_pos h

theorem reached_departure (h : c.settings.trace.isSome = true) (r : Request) :
    reached (c.departure r) = opening r := by
  rw [departure, reach_of_isSome h, reached_append, reached_map]
  rfl

theorem reached_arrival (h : c.settings.trace.isSome = true) (r : Request) (e : Exchange) :
    reached (c.arrival r e) = ending e.milestones (some e.reply) := by
  unfold arrival ending
  rcases e.reply with failure | response
  · simp only [reach_of_isSome h, reached_append, reached_map]
    rfl
  · simp only [reach_of_isSome h, reached_append, reached_map]
    simp [reached]

theorem opening_prepared (v : HeaderValue) (elapsed : Duration) (r : Request) :
    opening (c.prepared v elapsed r) = opening r := by
  simp only [opening, prepared, Headers.set_set]

theorem reached_execute_of_legal (h : c.settings.trace.isSome = true) {t : Token.Secret}
    {v : HeaderValue} (hv : credential? t = some v) (elapsed : Duration) (r : Request) (s : σ) :
    reached (c.execute (.ok t) elapsed r s).signals
      = course r (c.transport.execute (c.prepared v elapsed r) s).1.milestones
        (some (c.transport.execute (c.prepared v elapsed r) s).1.reply) := by
  rw [execute_of_legal c elapsed r s hv]
  simp only [reached_append, reached_departure h, reached_arrival h, reach_of_isSome h,
    reached_map, opening_prepared, course]

/-- What a request has shown that has come so far. -/
def trail (c : Client σ) (network : List Milestone) : Passage → List Signal
  | .refused r e => refusal r e
  | .rejected _ => []
  | .underway r _ | .abandoned r => c.departure r ++ c.reach network
  | .answered r dialed reply =>
    c.departure r ++ c.reach network ++ c.arrival r (.ofDialed dialed reply)

end Client

/-- The reports that are for one request, as it sees them. -/
def only (i k : Nat) : Option Unit :=
  if k = i then some () else none

theorem map_reportsVia_only (i : Nat) (reports : List (Nat × Milestone)) :
    (reportsVia (only i) reports).map (·.2) = reportsTo i reports := by
  induction reports with
  | nil => rfl
  | cons report reports ih =>
    by_cases h : report.1 = i <;> simp_all [reportsVia, reportsTo, only]

theorem reportsTo_eq_nil {i : Nat} {reports : List (Nat × Milestone)}
    (h : ∀ report ∈ reports, report.1 ≠ i) : reportsTo i reports = [] := by
  have hnone : reports.filter (·.1 = i) = [] :=
    List.filter_eq_nil_iff.2 fun report hmem => by simpa using h report hmem
  rw [reportsTo, hnone, List.map_nil]

/-- The milestones of the dials and lookups of one task. -/
def ownMilestones (xs : List (ActivityStep String)) : List Milestone :=
  (Network.activity ownTask [] xs).2.map (·.2)

namespace Passage

/-- The passage when its request was called for. -/
def begun : Passage → Passage
  | underway r _ | answered r _ _ | abandoned r => underway r false
  | refused r e => refused r e
  | rejected r => rejected r

/-- What the transport had for a request. -/
def reply? : Passage → Option (Except RequestError Response)
  | answered _ _ reply => some reply
  | refused .. | rejected _ | underway .. | abandoned _ => none

/-- Whether the transport has the request. -/
def isUnderway : Passage → Bool
  | underway .. => true
  | refused .. | rejected _ | answered .. | abandoned _ => false

theorem begun_told (p : Passage) (m : Milestone) : (p.told m).begun = p.begun := by
  unfold told
  split <;> rfl

theorem begun_foldl_told (p : Passage) (ms : List Milestone) :
    (ms.foldl told p).begun = p.begun := by
  induction ms generalizing p with
  | nil => rfl
  | cons m ms ih => exact (ih _).trans (begun_told p m)

theorem foldl_told_underway (r : Request) (ms : List Milestone) (dialed : Bool) :
    ms.foldl told (underway r dialed) = underway r (dialed || ms.contains .dialStart) := by
  induction ms generalizing dialed with
  | nil => simp
  | cons m ms ih =>
    by_cases h : m = .dialStart
    · subst h
      simp [told, ih]
    · have htold : (underway r dialed).told m = underway r dialed := by
        cases m with
        | dialStart => exact absurd rfl h
        | _ => rfl
      simp [htold, ih, Ne.symm h]

theorem foldl_told_abandoned (r : Request) (ms : List Milestone) :
    ms.foldl told (abandoned r) = abandoned r := by
  induction ms with
  | nil => rfl
  | cons m ms ih => exact ih

end Passage

namespace Junction

/-- No dial or lookup of a request is left that has not ended. -/
def IsQuiet (w : Junction) (i : Nat) : Prop :=
  ∀ o ∈ w.operations, o.hook? ≠ some i

/-- The task of a request has the number that it has alone, while the request is underway. -/
def seat (w : Junction) (i task : Nat) : Nat :=
  if task = i ∧ w.passages[i]?.any Passage.isUnderway then 0 else 1

/-- What a step does on the network, with the task of a request numbered so. -/
def seen (w : Junction) (i : Nat) : JunctionStep → List (ActivityStep String)
  | .network x => [x.onTask (w.seat i)]
  | .call .. | .finish .. | .abandon _ => []

theorem signalsOf_append {w : Junction} {passages : List Passage}
    {operations : List (Operation Nat String)} {signals : List (Nat × Signal)} (i : Nat) :
    signalsOf ⟨passages, operations, w.signals ++ signals⟩ i
      = w.signalsOf i ++ (signals.filter (·.1 = i)).map (·.2) := by
  simp only [signalsOf, List.filter_append, List.map_append]

theorem signalsOf_append_map {w : Junction} {passages : List Passage}
    {operations : List (Operation Nat String)} {k : Nat} {emitted : List Signal} (i : Nat) :
    signalsOf ⟨passages, operations, w.signals ++ emitted.map fun s => (k, s)⟩ i
      = w.signalsOf i ++ if i = k then emitted else [] := by
  rw [signalsOf_append, List.filter_map, List.map_map]
  by_cases h : i = k
  · simp [h, Function.comp_def]
  · simp [h, Ne.symm h, Function.comp_def]

theorem getElem?_tell (passages : List Passage) (reports : List (Nat × Milestone)) (i : Nat) :
    (tell passages reports)[i]?
      = passages[i]?.map fun p => (reportsTo i reports).foldl Passage.told p := by
  induction reports generalizing passages with
  | nil => simp [tell, reportsTo]
  | cons report reports ih =>
    show (tell (passages.modify report.1 (·.told report.2)) reports)[i]? = _
    rw [ih, List.getElem?_modify]
    by_cases h : report.1 = i <;> simp [reportsTo, h, Function.comp_def]

end Junction

/-- What a request remembers of the network agrees with its milestones. -/
def Agrees (network : List Milestone) (quiet : Prop) : Option Passage → Prop
  | some (.underway _ dialed) => dialed = network.contains .dialStart
  | some (.answered _ dialed _) => dialed = network.contains .dialStart ∧ quiet
  | some (.abandoned _) => True
  | some (.refused ..) | some (.rejected _) | none => network = [] ∧ quiet

theorem Agrees.imp {network : List Milestone} {quiet quiet' : Prop} {p : Option Passage}
    (h : Agrees network quiet p) (hquiet : quiet → quiet') : Agrees network quiet' p := by
  rcases p with _ | p
  · exact h.imp_right hquiet
  cases p with
  | underway r dialed | abandoned r => exact h
  | refused r e | rejected r | answered r dialed reply => exact h.imp_right hquiet

namespace Client

/-- The dials and lookups of a run. Those of a request's task while the request is underway are its
own. -/
def ownActivity (c : Client σ) (i : Nat) : Junction → List JunctionStep → List (ActivityStep String)
  | _, [] => []
  | w, x :: later => w.seen i x ++ c.ownActivity i (c.pass w x) later

/-- What is shown of a request after some steps is what would be shown if these were the dials and
lookups on its network. -/
structure Traces (c : Client σ) (w : Junction) (i : Nat) (xs : List (ActivityStep String)) :
    Prop where
  operations : (Network.activity ownTask [] xs).1 = w.operations.map (.via (only i))
  signals : w.signalsOf i = w.passages[i]?.elim [] (c.trail (ownMilestones xs))
  agrees : Agrees (ownMilestones xs) (w.IsQuiet i) w.passages[i]?

variable {c : Client σ} {w : Junction} {i : Nat} {xs : List (ActivityStep String)}

theorem scope?_eq_some_iff (h : c.settings.trace.isSome = true) {passages : List Passage}
    {task : Nat} :
    c.scope? passages task = some i ↔
      task = i ∧ ∃ r dialed, passages[i]? = some (.underway r dialed) := by
  unfold scope?
  split
  · rename_i r dialed htask
    rw [if_pos h]
    constructor
    · intro hsome
      obtain rfl := Option.some.inj hsome
      exact ⟨rfl, r, dialed, htask⟩
    · rintro ⟨rfl, -⟩
      rfl
  · rename_i hnot
    constructor
    · intro hsome
      cases hsome
    · rintro ⟨rfl, r, dialed, htask⟩
      exact absurd htask (hnot r dialed)

theorem ownTask_seat (h : c.settings.trace.isSome = true) (w : Junction) (i task : Nat) :
    ownTask (w.seat i task) = (c.scope? w.passages task).bind (only i) := by
  by_cases htask : task = i
  · subst htask
    rcases hp : w.passages[task]? with _ | p
    · simp [Junction.seat, scope?, hp, ownTask]
    · cases p <;> simp [Junction.seat, scope?, hp, h, ownTask, only, Passage.isUnderway]
  · have hseat : w.seat i task = 1 := if_neg fun hboth => htask hboth.1
    rw [hseat]
    unfold scope?
    split
    · rw [if_pos h, Option.bind_some, only, if_neg htask]
      rfl
    · rfl

/-- A step on the network, and what it is for a request that is alone. -/
theorem activity_own (h : c.Traces w i xs) (htrace : c.settings.trace.isSome = true)
    (x : ActivityStep String) :
    (Network.activity ownTask [] (xs ++ [x.onTask (w.seat i)])).1
        = (advance (c.scope? w.passages) w.operations x).1.map (.via (only i))
      ∧ ownMilestones (xs ++ [x.onTask (w.seat i)])
        = ownMilestones xs ++ reportsTo i (advance (c.scope? w.passages) w.operations x).2 := by
  have hvia := advance_via (ownTask_seat htrace w i) w.operations x
  unfold ownMilestones
  rw [activity_append_singleton, h.operations, hvia]
  exact ⟨rfl, by rw [List.map_append, map_reportsVia_only]⟩

theorem signalsOf_network (h : c.settings.trace.isSome = true) (x : ActivityStep String) :
    (c.pass w (.network x)).signalsOf i = w.signalsOf i
      ++ c.reach (reportsTo i (advance (c.scope? w.passages) w.operations x).2) := by
  simp only [pass, Junction.signalsOf_append, reach_of_isSome h, reportsTo, List.filter_map,
    List.map_map]
  rfl

theorem passage_network (c : Client σ) (w : Junction) (i : Nat) (x : ActivityStep String) :
    (c.pass w (.network x)).passages[i]? = w.passages[i]?.map
      ((reportsTo i (advance (c.scope? w.passages) w.operations x).2).foldl Passage.told) :=
  Junction.getElem?_tell ..

/-- What happens on the network goes past a request that has no scope and left no dial or lookup
behind. -/
theorem traces_network_of_quiet (h : c.Traces w i xs) (htrace : c.settings.trace.isSome = true)
    (hquiet : w.IsQuiet i) (hp : ∀ r dialed, w.passages[i]? ≠ some (.underway r dialed))
    (x : ActivityStep String) :
    c.Traces (c.pass w (.network x)) i (xs ++ [x.onTask (w.seat i)]) := by
  have hbound : ∀ task, c.scope? w.passages task ≠ some i := by
    intro task hscope
    obtain ⟨-, r, dialed, hi⟩ := (scope?_eq_some_iff htrace).1 hscope
    exact hp r dialed hi
  obtain ⟨hreports, hquiet'⟩ := advance_of_quiet hbound hquiet x
  have hnone := reportsTo_eq_nil hreports
  obtain ⟨hoperations, hmilestones⟩ := activity_own h htrace x
  rw [hnone, List.append_nil] at hmilestones
  have hpassage : (c.pass w (.network x)).passages[i]? = w.passages[i]? := by
    rw [passage_network, hnone]
    exact Option.map_id'
  refine ⟨hoperations, ?_, ?_⟩
  · rw [signalsOf_network htrace, hnone, reach_of_isSome htrace, hmilestones, hpassage, h.signals]
    exact List.append_nil _
  · rw [hmilestones, hpassage]
    exact h.agrees.imp fun _ => hquiet'

theorem traces_network (h : c.Traces w i xs) (htrace : c.settings.trace.isSome = true)
    (x : ActivityStep String) :
    c.Traces (c.pass w (.network x)) i (xs ++ [x.onTask (w.seat i)]) := by
  obtain ⟨hoperations, hmilestones⟩ := activity_own h htrace x
  have hsignals := signalsOf_network (i := i) (w := w) htrace x
  have hpassage := passage_network c w i x
  have hagrees := h.agrees
  rcases hp : w.passages[i]? with _ | p
  · rw [hp] at hagrees
    exact traces_network_of_quiet h htrace hagrees.2 (by simp [hp]) x
  rw [hp] at hagrees
  cases p with
  | underway r dialed =>
    rw [hp, Option.map_some, Passage.foldl_told_underway] at hpassage
    refine ⟨hoperations, ?_, ?_⟩
    · rw [hsignals, hpassage, h.signals, hp, hmilestones]
      simp only [Option.elim_some, trail, reach_append, List.append_assoc]
    · have hdialed : dialed = (ownMilestones xs).contains .dialStart := hagrees
      rw [hpassage, hmilestones]
      simp only [Agrees, hdialed, List.contains_append]
  | abandoned r =>
    rw [hp, Option.map_some, Passage.foldl_told_abandoned] at hpassage
    refine ⟨hoperations, ?_, ?_⟩
    · rw [hsignals, hpassage, h.signals, hp, hmilestones]
      simp only [Option.elim_some, trail, reach_append, List.append_assoc]
    · rw [hpassage]
      trivial
  | refused r e | rejected r | answered r dialed reply =>
    exact traces_network_of_quiet h htrace hagrees.2 (by simp [hp]) x

theorem begin_of_illegal {t : Token.Secret} (h : credential? t = none) (elapsed : Duration)
    (r : Request) : c.begin (.ok t) elapsed r = (.rejected r, []) := by
  simp only [begin, h]

theorem begin_of_legal {t : Token.Secret} {v : HeaderValue} (h : credential? t = some v)
    (elapsed : Duration) (r : Request) : c.begin (.ok t) elapsed r =
      (.underway (c.prepared v elapsed r) false, c.departure (c.prepared v elapsed r)) := by
  simp only [begin, h]

/-- What is called for has shown what it shows without a network. -/
theorem trail_begin (htrace : c.settings.trace.isSome = true) (token : Except Error Token.Secret)
    (elapsed : Duration) (r : Request) {quiet : Prop} (hquiet : quiet) :
    c.trail [] (c.begin token elapsed r).1 = (c.begin token elapsed r).2
      ∧ Agrees [] quiet (some (c.begin token elapsed r).1) := by
  rcases token with e | t
  · exact ⟨rfl, rfl, hquiet⟩
  rcases h : credential? t with _ | v
  · rw [begin_of_illegal h]
    exact ⟨rfl, rfl, hquiet⟩
  · rw [begin_of_legal h, trail, reach_of_isSome htrace]
    exact ⟨List.append_nil _, rfl⟩

theorem traces_call (h : c.Traces w i xs) (htrace : c.settings.trace.isSome = true)
    (token : Except Error Token.Secret) (elapsed : Duration) (r : Request) :
    c.Traces (c.pass w (.call token elapsed r)) i xs := by
  have hsignals : (c.pass w (.call token elapsed r)).signalsOf i = w.signalsOf i
      ++ if i = w.passages.length then (c.begin token elapsed r).2 else [] :=
    Junction.signalsOf_append_map i
  have hpassage : (c.pass w (.call token elapsed r)).passages[i]?
      = if i = w.passages.length then some (c.begin token elapsed r).1 else w.passages[i]? := by
    simp only [pass]
    grind
  by_cases hi : i = w.passages.length
  · have hnone : w.passages[i]? = none := List.getElem?_eq_none (Nat.le_of_eq hi.symm)
    have hagrees := h.agrees
    have htrail := h.signals
    rw [hnone] at hagrees htrail
    obtain ⟨hsilent, hquiet⟩ := hagrees
    obtain ⟨hbegin, hagrees⟩ := c.trail_begin htrace token elapsed r hquiet
    refine ⟨h.operations, ?_, ?_⟩
    · rw [hsignals, hpassage, if_pos hi, if_pos hi, htrail, hsilent]
      exact hbegin.symm
    · rwa [hpassage, if_pos hi, hsilent]
  · refine ⟨h.operations, ?_, ?_⟩
    · rw [hsignals, hpassage, if_neg hi, if_neg hi, List.append_nil, h.signals]
    · rw [hpassage, if_neg hi]
      exact h.agrees

/-- One request, which was underway, goes on without the network. -/
theorem traces_set (h : c.Traces w i xs) {k : Nat} {r : Request} {dialed : Bool} {p : Passage}
    {emitted : List Signal} (hk : w.passages[k]? = some (.underway r dialed))
    (htrail : c.trail (ownMilestones xs) p
      = c.trail (ownMilestones xs) (.underway r dialed) ++ emitted)
    (hagrees : k = i → dialed = (ownMilestones xs).contains .dialStart →
      Agrees (ownMilestones xs) (w.IsQuiet i) (some p)) :
    c.Traces ⟨w.passages.set k p, w.operations, w.signals ++ emitted.map fun s => (k, s)⟩ i xs := by
  have hsignals : Junction.signalsOf
      ⟨w.passages.set k p, w.operations, w.signals ++ emitted.map fun s => (k, s)⟩ i
        = w.signalsOf i ++ if i = k then emitted else [] :=
    Junction.signalsOf_append_map i
  by_cases hi : k = i
  · subst hi
    have hset : (w.passages.set k p)[k]? = some p :=
      List.getElem?_set_self (List.getElem?_eq_some_iff.1 hk).1
    have hdialed := h.agrees
    rw [hk] at hdialed
    refine ⟨h.operations, ?_, ?_⟩
    · rw [hsignals, if_pos rfl, hset, h.signals, hk]
      exact htrail.symm
    · rw [hset]
      exact hagrees rfl hdialed
  · have hset : (w.passages.set k p)[i]? = w.passages[i]? := List.getElem?_set_ne hi
    refine ⟨h.operations, ?_, ?_⟩
    · rw [hsignals, if_neg (Ne.symm hi), List.append_nil, hset, h.signals]
    · rw [hset]
      exact h.agrees

theorem traces_finish (h : c.Traces w i xs) {k : Nat} (hquiet : k = i → w.IsQuiet i)
    (reply : Except RequestError Response) : c.Traces (c.pass w (.finish k reply)) i xs := by
  simp only [pass]
  split
  · rename_i r dialed hk
    exact traces_set h hk rfl fun hi hdialed => ⟨hdialed, hquiet hi⟩
  · exact h

theorem traces_abandon (h : c.Traces w i xs) (k : Nat) : c.Traces (c.pass w (.abandon k)) i xs := by
  simp only [pass]
  split
  · rename_i r dialed hk
    rw [← List.append_nil w.signals]
    exact traces_set (p := .abandoned r) h hk (List.append_nil _).symm fun _ _ => trivial
  · exact h

theorem traces_step (h : c.Traces w i xs) (htrace : c.settings.trace.isSome = true)
    (x : JunctionStep) (hquiet : ∀ reply, x = .finish i reply → w.IsQuiet i) :
    c.Traces (c.pass w x) i (xs ++ w.seen i x) := by
  cases x with
  | network x => exact traces_network h htrace x
  | call token elapsed r =>
    rw [Junction.seen, List.append_nil]
    exact traces_call h htrace token elapsed r
  | finish k reply =>
    rw [Junction.seen, List.append_nil]
    exact traces_finish h (fun hi => hquiet reply (hi ▸ rfl)) reply
  | abandon k =>
    rw [Junction.seen, List.append_nil]
    exact traces_abandon h k

theorem junction_append_singleton (steps : List JunctionStep) (x : JunctionStep) :
    c.junction (steps ++ [x]) = c.pass (c.junction steps) x := by
  rw [junction, List.foldl_append]
  rfl

theorem ownActivity_append_singleton (w : Junction) (steps : List JunctionStep) (x : JunctionStep) :
    c.ownActivity i w (steps ++ [x])
      = c.ownActivity i w steps ++ (steps.foldl c.pass w).seen i x := by
  induction steps generalizing w with
  | nil => exact (List.append_nil _).trans (List.nil_append _).symm
  | cons y steps ih =>
    rw [List.cons_append, ownActivity, ih, ownActivity, List.append_assoc, List.foldl_cons]

/-- The dials and lookups of a request have ended when its transport is done with it. -/
def IsTidy (c : Client σ) (i : Nat) (steps : List JunctionStep) : Prop :=
  ∀ k reply, steps[k]? = some (.finish i reply) → (c.junction (steps.take k)).IsQuiet i

theorem traces_junction (htrace : c.settings.trace.isSome = true) (i : Nat)
    (steps : List JunctionStep) (htidy : c.IsTidy i steps) :
    c.Traces (c.junction steps) i (c.ownActivity i .initial steps) := by
  induction steps using List.reverseRecOn with
  | nil => exact ⟨rfl, rfl, rfl, fun o hmem => by cases hmem⟩
  | append_singleton steps x ih =>
    rw [junction_append_singleton, ownActivity_append_singleton]
    refine traces_step (ih fun k reply hk => ?_) htrace x fun reply hx => ?_
    · have hlt : k < steps.length := (List.getElem?_eq_some_iff.1 hk).1
      have htake := htidy k reply (by rw [List.getElem?_append_left hlt, hk])
      rwa [List.take_append_of_le_length (Nat.le_of_lt hlt)] at htake
    · have htake := htidy steps.length reply (by rw [hx]; exact List.getElem?_concat_length)
      rwa [List.take_left] at htake

/-- A request that was called for is the same in every step. -/
theorem begun_pass {p : Passage} (hp : w.passages[i]? = some p) (x : JunctionStep) :
    ∃ p', (c.pass w x).passages[i]? = some p' ∧ p'.begun = p.begun := by
  have hset : ∀ {k : Nat} {q q' : Passage}, w.passages[k]? = some q → q'.begun = q.begun →
      ∃ p', (w.passages.set k q')[i]? = some p' ∧ p'.begun = p.begun := by
    intro k q q' hk hq
    by_cases hi : k = i
    · subst hi
      obtain rfl : q = p := Option.some.inj (hk.symm.trans hp)
      exact ⟨q', List.getElem?_set_self (List.getElem?_eq_some_iff.1 hk).1, hq⟩
    · exact ⟨p, (List.getElem?_set_ne hi).trans hp, rfl⟩
  cases x with
  | network x =>
    rw [passage_network, hp]
    exact ⟨_, rfl, p.begun_foldl_told _⟩
  | call token elapsed r =>
    have hlt : i < w.passages.length := (List.getElem?_eq_some_iff.1 hp).1
    exact ⟨p, (List.getElem?_append_left hlt).trans hp, rfl⟩
  | finish k reply | abandon k =>
    simp only [pass]
    split
    · rename_i r dialed hk
      exact hset hk rfl
    · exact ⟨p, hp, rfl⟩

theorem begun_foldl_pass {p : Passage} (hp : w.passages[i]? = some p) (steps : List JunctionStep) :
    ∃ p', (steps.foldl c.pass w).passages[i]? = some p' ∧ p'.begun = p.begun := by
  induction steps generalizing w p with
  | nil => exact ⟨p, hp, rfl⟩
  | cons x steps ih =>
    obtain ⟨p', hp', hbegun⟩ := begun_pass hp x
    obtain ⟨p'', hp'', hbegun'⟩ := ih hp'
    exact ⟨p'', hp'', hbegun'.trans hbegun⟩

theorem exists_passage_of_call (before after : List JunctionStep)
    (token : Except Error Token.Secret) (elapsed : Duration) (r : Request) :
    ∃ p, (c.junction (before ++ .call token elapsed r :: after)).passages[
          (c.junction before).passages.length]? = some p
      ∧ p.begun = (c.begin token elapsed r).1.begun := by
  rw [junction, List.foldl_append, List.foldl_cons]
  exact begun_foldl_pass List.getElem?_concat_length after

/-- The client over a transport that has this to say to every request. -/
def carrying (c : Client σ) (e : Exchange) : Client σ :=
  { c with transport := { c.transport with execute := fun _ s => (e, s) } }

theorem arrival_ofDialed {dialed : Bool} {e : Exchange}
    (h : dialed = e.milestones.contains .dialStart) (r : Request) :
    c.arrival r (.ofDialed dialed e.reply) = c.arrival r e := by
  have hreply : (Exchange.ofDialed dialed e.reply).reply = e.reply := rfl
  have hdialed : (Exchange.ofDialed dialed e.reply).milestones.contains .dialStart = dialed := by
    cases dialed <;> rfl
  rw [arrival, arrival, hreply, hdialed, h]

/-- A request that was called for has passed the milestones of its course, as far as it has come. -/
theorem reached_trail (htrace : c.settings.trace.isSome = true) {xs : List (ActivityStep String)}
    {p : Passage} {v : HeaderValue} {elapsed : Duration} {r : Request} {quiet : Prop}
    (hp : p.begun = .underway (c.prepared v elapsed r) false)
    (hagrees : Agrees (ownMilestones xs) quiet (some p)) :
    reached (c.trail (ownMilestones xs) p) = course r (ownMilestones xs) p.reply? := by
  have hopening : ∀ r', r' = c.prepared v elapsed r →
      reached (c.departure r' ++ c.reach (ownMilestones xs)) = opening r ++ ownMilestones xs := by
    rintro r' rfl
    rw [reached_append, reached_departure htrace, opening_prepared, reach_of_isSome htrace,
      reached_map]
  cases p with
  | refused r e | rejected r => cases hp
  | underway r' dialed | abandoned r' =>
    exact (hopening r' (Passage.underway.inj hp).1).trans (List.append_nil _).symm
  | answered r' dialed reply =>
    obtain ⟨hdialed, -⟩ := hagrees
    rw [trail, arrival_ofDialed (e := ⟨xs, reply⟩) hdialed, reached_append, reached_arrival htrace,
      hopening r' (Passage.underway.inj hp).1]
    rfl

end Client

/-- What the transport had for a request. -/
def Junction.reply? (w : Junction) (i : Nat) : Option (Except RequestError Response) :=
  w.passages[i]?.bind Passage.reply?

theorem ofNetwork_of_mem_ownMilestones {xs : List (ActivityStep String)} {m : Milestone}
    (h : m ∈ ownMilestones xs) : m.ofNetwork :=
  Exchange.ofNetwork_of_mem_milestones (e := ⟨xs, .error .invalidHeader⟩) h

theorem dialStart_mem_course {r : Request} {network : List Milestone}
    {reply : Option (Except RequestError Response)} :
    .dialStart ∈ course r network reply ↔ .dialStart ∈ network := by
  have hopening : .dialStart ∉ opening r := by simp [opening]
  have hending : .dialStart ∉ ending network reply := by
    rcases reply with _ | failure | response <;> simp [ending]
  simp [course, hopening, hending]

/-- A connection is told to be reused if and only if none was dialed. -/
theorem reused_of_mem_course {r : Request} {network : List Milestone}
    {reply : Option (Except RequestError Response)} (hnetwork : ∀ m ∈ network, m.ofNetwork)
    {remote : Option Socket} {version : Version} {reused : Bool}
    (h : .gotConnection remote version reused ∈ course r network reply) :
    reused = false ↔ .dialStart ∈ course r network reply := by
  have hopening : .gotConnection remote version reused ∉ opening r := by simp [opening]
  have hnot : .gotConnection remote version reused ∉ network := by
    intro hmem
    cases hnetwork _ hmem
  have hmem : .gotConnection remote version reused ∈ ending network reply := by
    simpa [course, hopening, hnot] using h
  rw [dialStart_mem_course]
  rcases reply with _ | failure | response
  · simp [ending] at hmem
  · simp [ending] at hmem
  · have hreused : reused = decide (.dialStart ∉ network) := by
      simp only [ending, List.mem_cons, Milestone.gotConnection.injEq] at hmem
      rcases hmem with ⟨-, -, hreused⟩ | hmem
      · exact hreused
      · simp at hmem
    simp [hreused]

namespace Client

variable {c : Client σ}

theorem reached_execute_of_not_legal {token : Except Error Token.Secret}
    (h : ∀ t, token = .ok t → ¬ t.IsLegal) (elapsed : Duration) (r : Request) (s : σ) :
    reached (c.execute token elapsed r s).signals = [] := by
  rcases token with e | t
  · rfl
  · rw [execute_of_illegal c elapsed r s (credential?_eq_none_iff.2 (h t rfl))]
    rfl

theorem reached_trail_of_not_legal {token : Except Error Token.Secret}
    (h : ∀ t, token = .ok t → ¬ t.IsLegal) {elapsed : Duration} {r : Request} {p : Passage}
    (hp : p.begun = (c.begin token elapsed r).1.begun) (network : List Milestone) :
    reached (c.trail network p) = [] := by
  rcases token with e | t
  · cases p with
    | refused r e => rfl
    | _ => cases hp
  · rw [begin_of_illegal (credential?_eq_none_iff.2 (h t rfl))] at hp
    cases p with
    | rejected r => rfl
    | _ => cases hp

/-- A request that was answered has shown what it shows alone on its own network. -/
theorem trail_eq_execute {xs : List (ActivityStep String)} {p : Passage} {t : Token.Secret}
    {v : HeaderValue} {elapsed : Duration} {r : Request} {quiet : Prop}
    {reply : Except RequestError Response} (hv : credential? t = some v)
    (hp : p.begun = .underway (c.prepared v elapsed r) false)
    (hagrees : Agrees (ownMilestones xs) quiet (some p)) (hreply : p.reply? = some reply) (s : σ) :
    c.trail (ownMilestones xs) p
      = ((c.carrying ⟨xs, reply⟩).execute (.ok t) elapsed r s).signals := by
  cases p with
  | answered r' dialed reply' =>
    obtain rfl := Option.some.inj hreply
    obtain rfl := (Passage.underway.inj hp).1
    rw [trail, arrival_ofDialed (e := ⟨xs, reply'⟩) hagrees.1, execute_of_legal _ _ _ _ hv]
    rfl
  | _ => cases hreply

/-- Under a hook, a request passes no milestone if it has no token, or one that cannot stand in a
header. Any other passes those of its course: two when it is handed to the transport, those of its
own dials and lookups, and those of what came of it. So it is for a request that is executed over
any transport, and for each of many side by side, if the dials and lookups for it have ended when
the transport is done with it. Then it shows what it shows alone, and its connection is told to be
reused if and only if nothing was dialed for it, whatever was dialed for others. -/
theorem milestones_in_order (c : Client σ) (htrace : c.settings.trace.isSome = true) :
    (∀ (elapsed : Duration) (r : Request) (s : σ),
      (∀ token, (∀ t, token = .ok t → ¬ t.IsLegal) →
        reached (c.execute token elapsed r s).signals = [])
      ∧ ∀ t v, credential? t = some v →
        let e := (c.transport.execute (c.prepared v elapsed r) s).1
        reached (c.execute (.ok t) elapsed r s).signals = course r e.milestones (some e.reply))
    ∧ ∀ before token elapsed r after,
      let steps := before ++ .call token elapsed r :: after
      let i := (c.junction before).passages.length
      let shown := (c.junction steps).signalsOf i
      let network := ownMilestones (c.ownActivity i .initial steps)
      c.IsTidy i steps →
      ((∀ t, token = .ok t → ¬ t.IsLegal) → reached shown = [])
      ∧ ((∃ t, token = .ok t ∧ t.IsLegal) →
        reached shown = course r network ((c.junction steps).reply? i)
        ∧ (∀ m ∈ network, m.ofNetwork)
        ∧ (∀ remote version reused, .gotConnection remote version reused ∈ reached shown →
          (reused = false ↔ .dialStart ∈ reached shown))
        ∧ ∀ reply, (c.junction steps).reply? i = some reply → ∀ s,
          shown = ((c.carrying ⟨c.ownActivity i .initial steps, reply⟩).execute token elapsed r
            s).signals) := by
  refine ⟨fun elapsed r s => ⟨fun token h => reached_execute_of_not_legal h elapsed r s,
    fun t v hv => reached_execute_of_legal htrace hv elapsed r s⟩, ?_⟩
  intro before token elapsed r after steps i shown network htidy
  have htraces := traces_junction htrace i steps htidy
  obtain ⟨p, hp, hbegun⟩ := exists_passage_of_call (c := c) before after token elapsed r
  have hshown : shown = c.trail network p := by
    rw [show shown = _ from htraces.signals, hp]
    rfl
  have hagrees : Agrees network ((c.junction steps).IsQuiet i) (some p) := by
    rw [← hp]
    exact htraces.agrees
  have hreply : (c.junction steps).reply? i = p.reply? := by
    rw [Junction.reply?, hp]
    rfl
  have hnetwork : ∀ m ∈ network, m.ofNetwork := fun m => ofNetwork_of_mem_ownMilestones
  refine ⟨fun h => ?_, ?_⟩
  · rw [hshown]
    exact reached_trail_of_not_legal h hbegun network
  · rintro ⟨t, rfl, ht⟩
    obtain ⟨v, hv, -⟩ := exists_credential? ht
    rw [begin_of_legal hv] at hbegun
    have hreached : reached shown = course r network p.reply? := by
      rw [hshown]
      exact reached_trail htrace hbegun hagrees
    rw [hreply, hreached]
    refine ⟨rfl, hnetwork, fun remote version reused => reused_of_mem_course hnetwork, ?_⟩
    intro reply hanswered s
    rw [hshown]
    exact trail_eq_execute hv hbegun hagrees hanswered s

/-- A client with a hook and without a network. -/
def watchedClient : Client Unit :=
  { offlineClient with settings.trace := some (.observer 0) }

def emptyResponse : Response :=
  ⟨204, .v1_1, .empty, none, []⟩

/-- Two requests, the first of which dials twice. The second is answered while that goes on. -/
def twoRequests : List JunctionStep :=
  [.call (.ok ⟨"a"⟩) .zero exampleRequest, .call (.ok ⟨"b"⟩) .zero exampleRequest,
    .network (.dial 0), .network (.dialEnds 0 (.error .undescribed)), .network (.dial 0),
    .finish 1 (.ok emptyResponse), .network (.dialEnds 1 (.ok "")), .finish 0 (.ok emptyResponse)]

theorem isTidy_twoRequests {i : Nat} (h : i < 2) : watchedClient.IsTidy i twoRequests := by
  intro k reply hk
  have hk' : k = 5 ∧ i = 1 ∨ k = 7 ∧ i = 0 := by
    unfold twoRequests at hk
    grind
  rcases hk' with ⟨rfl, rfl⟩ | ⟨rfl, rfl⟩ <;> unfold Junction.IsQuiet <;> decide +kernel

/-- The second request was answered over a connection that it did not dial. -/
theorem milestones_in_order_of_two :
    watchedClient.settings.trace.isSome = true
      ∧ watchedClient.IsTidy 0 twoRequests ∧ watchedClient.IsTidy 1 twoRequests
      ∧ reached ((watchedClient.junction twoRequests).signalsOf 0)
        = opening exampleRequest ++ [.dialStart, .dialDone (some .undescribed), .dialStart,
          .dialDone none, .gotConnection none .v1_1 false, .gotFirstByte 204]
      ∧ reached ((watchedClient.junction twoRequests).signalsOf 1)
        = opening exampleRequest ++ [.gotConnection none .v1_1 true, .gotFirstByte 204] := by
  have hlegal : Token.Secret.IsLegal ⟨"a"⟩ ∧ Token.Secret.IsLegal ⟨"b"⟩ := by decide +kernel
  have hfirst := (((milestones_in_order watchedClient rfl).2 [] _ _ _ _
    (isTidy_twoRequests Nat.zero_lt_two)).2 ⟨_, rfl, hlegal.1⟩).1
  have hsecond := (((milestones_in_order watchedClient rfl).2 [_] _ _ _ _
    (isTidy_twoRequests Nat.one_lt_two)).2 ⟨_, rfl, hlegal.2⟩).1
  refine ⟨rfl, isTidy_twoRequests Nat.zero_lt_two, isTidy_twoRequests Nat.one_lt_two,
    hfirst.trans ?_, hsecond.trans ?_⟩
  · decide +kernel
  · decide +kernel

end Client

end BearerAuth
