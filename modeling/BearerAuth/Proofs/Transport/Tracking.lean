import BearerAuth.Proofs.Transport.Permits
import Mathlib.Data.List.Dedup
import Mathlib.Data.List.Perm.Subperm

/-!
# Which hosts are tracked

An entry for a host stands because a request has hold of the host's semaphore, or has given its
permit back and has not pruned yet, or because a request that had stopped waiting let go of the
semaphore after the hosts had last been pruned (`accounted_run`). Between the changes of requests
the first means that a permit is held or awaited and the second does not occur, so the hosts tracked
in vain are those of the third kind alone (`run_tracks_active_or_departed`).
-/

namespace BearerAuth.Transport

namespace Ticket

/-- Whether the request holds a permit or waits for one. -/
def isActive : Ticket → Bool
  | waiting .. | holding .. => true
  | _ => false

/-- Whether the request is not in the middle of a change. -/
def isSettled : Ticket → Bool
  | cancelled .. | leaving .. | released _ => false
  | _ => true

/-- Whether an entry stands because of the request. -/
def Keeps (e : String × Nat) (t : Ticket) : Prop :=
  t.semaphore? = some e.2 ∨ t = released e.1

theorem exists_semaphore_of_isActive {t : Ticket} (h : t.isActive) :
    ∃ s, t.semaphore? = some s := by
  cases t with
  | waiting _ s | holding _ s => exact ⟨s, rfl⟩
  | _ => simp [isActive] at h

theorem isActive_of_keeps {e : String × Nat} {t : Ticket} (h : t.Keeps e) (hs : t.isSettled) :
    t.isActive ∧ t.semaphore? = some e.2 := by
  rcases h with h | rfl
  · refine ⟨?_, h⟩
    cases t with
    | waiting | holding => rfl
    | cancelled | leaving => simp [isSettled] at hs
    | _ => simp [semaphore?] at h
  · simp [isSettled] at hs

end Ticket

namespace HostLimits

/-- The hosts that requests hold permits of or wait for, each once. -/
def activeHosts (l : HostLimits) : List String :=
  ((l.tickets.filter (·.isActive)).map Ticket.host).dedup

def trackedHosts (l : HostLimits) : List String :=
  l.hosts.map Prod.fst

/-- No request is in the middle of a change. -/
def Settled (l : HostLimits) : Prop :=
  ∀ t ∈ l.tickets, t.isSettled

instance (l : HostLimits) : Decidable l.Settled :=
  inferInstanceAs (Decidable (∀ t ∈ l.tickets, t.isSettled))

/-- How a step changes the list of the hosts whose semaphore a request let go of after it had
stopped waiting, and since the hosts were last pruned. -/
def departing (l : HostLimits) (gs : List String) : LimitStep → List String
  | .enter _ => gs
  | .move i m =>
    match l.tickets[i]?, m with
    | some (.leaving g _), .letGo => g :: gs
    | some (.cancelled ..), .prune | some (.released _), .prune => []
    | _, _ => gs

/-- The hosts that were let go of in a run, and not pruned since. -/
def departed (l : HostLimits) (gs : List String) : List LimitStep → List String
  | [] => gs
  | x :: steps => departed (l.step x) (l.departing gs x) steps

/-- Every entry stands for a reason, and the hosts that were let go of are still tracked. -/
structure Accounted (l : HostLimits) (gs : List String) : Prop where
  reason : ∀ e ∈ l.hosts, (∃ t ∈ l.tickets, t.Keeps e) ∨ e.1 ∈ gs
  departed : ∀ g ∈ gs, g ∈ l.trackedHosts

variable {l : HostLimits} {i : Nat} {t t' : Ticket} {g : String} {s : Nat} {gs gs' : List String}

theorem mem_activeHosts : g ∈ l.activeHosts ↔ ∃ t ∈ l.tickets, t.isActive ∧ t.host = g := by
  simp [activeHosts, and_assoc]

theorem accounted_new (max : Nat) : Accounted (new max) [] where
  reason e he := by simp [new] at he
  departed g hg := by simp at hg

namespace Accounted

/-- A ticket may be replaced if what stands because of it is accounted for afterwards. -/
theorem put (h : Accounted l gs) (ht : l.tickets[i]? = some t)
    (hsub : ∀ g ∈ gs, g ∈ gs') (hdeparted : ∀ g ∈ gs', g ∈ l.trackedHosts)
    (hkeeps : ∀ e ∈ l.hosts, t.Keeps e → t'.Keeps e ∨ e.1 ∈ gs') :
    Accounted (l.put i t') gs' where
  departed := hdeparted
  reason e he := by
    obtain ⟨hi, rfl⟩ := List.getElem?_eq_some_iff.1 ht
    rcases h.reason e he with ⟨u, hu, hkeep⟩ | hgs
    · obtain ⟨j, hj⟩ := List.mem_iff_getElem?.1 hu
      by_cases hij : i = j
      · subst hij
        rw [List.getElem?_eq_getElem hi] at hj
        obtain rfl := Option.some.inj hj
        rcases hkeeps e he hkeep with hkeep | hgs
        · exact .inl ⟨t', List.mem_set hi t', hkeep⟩
        · exact .inr hgs
      · refine .inl ⟨u, List.mem_iff_getElem?.2 ⟨j, ?_⟩, hkeep⟩
        simp only [HostLimits.put, List.getElem?_set_ne hij, hj]
    · exact .inr (hsub _ hgs)

theorem put_of_not_keeps (h : Accounted l gs) (ht : l.tickets[i]? = some t)
    (hkeeps : ∀ e, ¬ t.Keeps e) : Accounted (l.put i t') gs :=
  h.put ht (fun _ hg => hg) h.departed fun e _ hkeep => absurd hkeep (hkeeps e)

theorem put_of_semaphore (h : Accounted l gs) (ht : l.tickets[i]? = some t)
    (hs : t.semaphore? = some s) (hs' : t'.semaphore? = some s) : Accounted (l.put i t') gs := by
  refine h.put ht (fun _ hg => hg) h.departed fun e _ hkeep => .inl (.inl ?_)
  rcases hkeep with hkeep | rfl
  · rw [hs', ← hs, hkeep]
  · cases hs

theorem of_available (h : Accounted l gs) (available : List Nat) :
    Accounted { l with available := available } gs :=
  ⟨h.reason, h.departed⟩

theorem make (h : Accounted l gs) (available : List Nat) (ht : l.tickets[i]? = some (.unasked g)) :
    Accounted ({ l with available := available, hosts := l.hosts ++ [(g, s)] }.put i
      (.waiting g s)) gs := by
  have hwaiting : Accounted (l.put i (.waiting g s)) gs :=
    h.put_of_not_keeps ht (by simp [Ticket.Keeps, Ticket.semaphore?])
  refine ⟨fun e he => ?_, fun g' hg' => ?_⟩
  · rcases List.mem_append.1 he with he | he
    · exact hwaiting.reason e he
    · obtain rfl := List.mem_singleton.1 he
      exact .inl ⟨_, List.mem_set (List.getElem?_eq_some_iff.1 ht).1 _, .inl rfl⟩
  · have hmem := h.departed g' hg'
    simp only [trackedHosts, HostLimits.put, List.map_append] at hmem ⊢
    exact List.mem_append_left _ hmem

theorem pruned (l : HostLimits) : Accounted l.pruned [] where
  reason e he := by
    obtain ⟨-, hused⟩ := List.mem_filter.1 he
    obtain ⟨t, ht, hs⟩ := List.any_eq_true.1 hused
    exact .inl ⟨t, ht, .inl (of_decide_eq_true hs)⟩
  departed g hg := by simp at hg

theorem giveBack (h : Accounted l gs) (hb : Balanced l) (ht : l.tickets[i]? = some (.holding g s)) :
    Accounted (l.put i (.released g)) gs := by
  -- the semaphore is let go of, and the entry stands until this request has pruned
  refine h.put ht (fun _ hg => hg) h.departed fun e he hkeep => .inl (.inr ?_)
  rcases hkeep with hs | hs
  · obtain rfl : s = e.2 := Option.some.inj hs
    exact congrArg Ticket.released (hb.host_eq (hb.of_mem ht rfl) he)
  · cases hs

/-- The entry of a semaphore that is let go of last stands without a use. -/
theorem letGo (h : Accounted l gs) (hb : Balanced l) (ht : l.tickets[i]? = some (.leaving g s)) :
    Accounted (l.put i (.closed g)) (g :: gs) := by
  have hmem : (g, s) ∈ l.hosts := hb.of_mem ht rfl
  -- this request has pruned already, while it had hold of the semaphore itself
  refine h.put ht (fun _ hg => List.mem_cons_of_mem g hg) (fun g' hg' => ?_) fun e he hkeep => ?_
  · rcases List.mem_cons.1 hg' with rfl | hg'
    · exact List.mem_map_of_mem (f := Prod.fst) hmem
    · exact h.departed g' hg'
  · rcases hkeep with hs | hs
    · obtain rfl : s = e.2 := Option.some.inj hs
      rw [hb.host_eq he hmem]
      exact .inr List.mem_cons_self
    · cases hs

end Accounted

theorem accounted_moved (h : Accounted l gs) (hb : Balanced l) (ht : l.tickets[i]? = some t)
    (m : Move) : Accounted (l.moved i t m) (l.departing gs (.move i m)) := by
  simp only [departing, ht]
  cases t with
  | unasked g =>
    have hnone : ∀ e, ¬ (Ticket.unasked g).Keeps e := by simp [Ticket.Keeps, Ticket.semaphore?]
    cases m with
    | ask =>
      simp only [moved]
      split_ifs
      · exact h.put_of_not_keeps ht hnone
      · split
        · exact h.put_of_not_keeps ht hnone
        · exact h.make _ ht
    | cancel => exact h.put_of_not_keeps ht hnone
    | _ => exact h
  | waiting g s =>
    cases m with
    | poll =>
      simp only [moved]
      split_ifs
      · exact (h.of_available _).put_of_semaphore ht rfl rfl
      · exact h
    | cancel => exact h.put_of_semaphore ht rfl rfl
    | _ => exact h
  | holding g s =>
    cases m with
    | giveBack => exact (h.giveBack hb ht).of_available _
    | _ => exact h
  | cancelled g s =>
    cases m with
    | prune => exact (Accounted.pruned l).put_of_semaphore ht rfl rfl
    | _ => exact h
  | leaving g s =>
    cases m with
    | letGo => exact h.letGo hb ht
    | _ => exact h
  | released g =>
    cases m with
    | prune => exact Accounted.pruned _
    | _ => exact h
  | unlimited g =>
    have hnone : ∀ e, ¬ (Ticket.unlimited g).Keeps e := by simp [Ticket.Keeps, Ticket.semaphore?]
    cases m with
    | letGo => exact h.put_of_not_keeps ht hnone
    | _ => exact h
  | closed g => cases m <;> exact h

theorem accounted_step (h : Accounted l gs) (hb : Balanced l) (x : LimitStep) :
    Accounted (l.step x) (l.departing gs x) := by
  cases x with
  | enter g =>
    refine ⟨fun e he => ?_, h.departed⟩
    rcases h.reason e he with ⟨t, ht, hkeep⟩ | hgs
    · exact .inl ⟨t, List.mem_append_left _ ht, hkeep⟩
    · exact .inr hgs
  | move i m =>
    rcases ht : l.tickets[i]? with _ | t
    · simpa only [step, departing, ht] using h
    · simpa only [step, ht] using accounted_moved h hb ht m

theorem accounted_run : ∀ (steps : List LimitStep) {l : HostLimits} {gs : List String},
    Accounted l gs → Balanced l → Accounted (l.run steps) (departed l gs steps)
  | [], _, _, h, _ => h
  | x :: steps, _, _, h, hb => accounted_run steps (accounted_step h hb x) (balanced_step hb x)

theorem mem_trackedHosts_iff (h : Accounted l gs) (hb : Balanced l) (hsettled : l.Settled) :
    g ∈ l.trackedHosts ↔ g ∈ l.activeHosts ∨ g ∈ gs := by
  rw [mem_activeHosts]
  constructor
  · intro hg
    obtain ⟨e, he, rfl⟩ := List.mem_map.1 hg
    rcases h.reason e he with ⟨t, ht, hkeep⟩ | hgs
    · obtain ⟨hactive, hs⟩ := Ticket.isActive_of_keeps hkeep (hsettled t ht)
      exact .inl ⟨t, ht, hactive, hb.host_eq (hb.tracked t ht _ hs) he⟩
    · exact .inr hgs
  · rintro (⟨t, ht, hactive, rfl⟩ | hgs)
    · obtain ⟨s, hs⟩ := Ticket.exists_semaphore_of_isActive hactive
      exact List.mem_map_of_mem (f := Prod.fst) (hb.tracked t ht s hs)
    · exact h.departed g hgs

theorem length_activeHosts_eq_iff (hb : Balanced l)
    (hsub : ∀ g ∈ l.activeHosts, g ∈ l.trackedHosts) :
    l.tracked = l.activeHosts.length ↔ ∀ g ∈ l.trackedHosts, g ∈ l.activeHosts := by
  have hlength : l.tracked = l.trackedHosts.length := (List.length_map _).symm
  have hnodup : l.activeHosts.Nodup := List.nodup_dedup _
  rw [hlength]
  constructor
  · intro heq g hg
    have hperm := (hnodup.subperm hsub).perm_of_length_le (Nat.le_of_eq heq)
    exact hperm.mem_iff.2 hg
  · intro hsub'
    exact ((List.perm_ext_iff_of_nodup hb.hosts_nodup hnodup).2
      fun g => ⟨hsub' g, hsub g⟩).length_eq

/-- Whatever requests come, are polled, stop waiting and give permits back, and however their steps
are interleaved: while no request is in the middle of a change, the tracked hosts are those of which
a permit is held or awaited, and those that a request which had stopped waiting let go of since the
hosts were last pruned. So the hosts in use are tracked and no others exactly if each host of the
second kind is in use as well, and then they are counted right: none are tracked after all permits
are given back and all waiting has ended. -/
theorem run_tracks_active_or_departed (max : Nat) (steps : List LimitStep)
    (hsettled : ((new max).run steps).Settled) :
    (∀ g, g ∈ ((new max).run steps).trackedHosts
      ↔ g ∈ ((new max).run steps).activeHosts ∨ g ∈ departed (new max) [] steps)
    ∧ ((∀ g, g ∈ ((new max).run steps).trackedHosts ↔ g ∈ ((new max).run steps).activeHosts)
      ↔ ∀ g ∈ departed (new max) [] steps, g ∈ ((new max).run steps).activeHosts)
    ∧ (((new max).run steps).tracked = ((new max).run steps).activeHosts.length
      ↔ ∀ g ∈ departed (new max) [] steps, g ∈ ((new max).run steps).activeHosts) := by
  have hb := balanced_run max steps
  have htracked : ∀ g, g ∈ ((new max).run steps).trackedHosts
      ↔ g ∈ ((new max).run steps).activeHosts ∨ g ∈ departed (new max) [] steps := fun g =>
    mem_trackedHosts_iff (accounted_run steps (accounted_new max) (balanced_new max)) hb hsettled
  refine ⟨htracked, ⟨fun h g hg => (h g).1 ((htracked g).2 (.inr hg)), fun h g => ?_⟩, ?_⟩
  · rw [htracked g]
    exact ⟨fun hg => hg.elim id (h g), .inl⟩
  · rw [length_activeHosts_eq_iff hb fun g hg => (htracked g).2 (.inl hg)]
    exact ⟨fun h g hg => h g ((htracked g).2 (.inr hg)),
      fun h g hg => ((htracked g).1 hg).elim id (h g)⟩

/-- Two requests to one host under a cap of one: the first takes the permit, the second waits. -/
def twoRequests (host : String) : List LimitStep :=
  .enter host :: polling 0 ++ .enter host :: polling 1

/-- If the second stops waiting first, the host is forgotten once the permit is given back. -/
theorem run_tracks_none_of_cancelled_first :
    ((new 1).run (twoRequests "a" ++ dropping 1 ++ dropping 0)).Settled
      ∧ (∀ g ∈ departed (new 1) [] (twoRequests "a" ++ dropping 1 ++ dropping 0),
        g ∈ ((new 1).run (twoRequests "a" ++ dropping 1 ++ dropping 0)).activeHosts)
      ∧ ((new 1).run (twoRequests "a" ++ dropping 1 ++ dropping 0)).tracked
        = ((new 1).run (twoRequests "a" ++ dropping 1 ++ dropping 0)).activeHosts.length
      ∧ ((new 1).run (twoRequests "a" ++ dropping 1 ++ dropping 0)).activeHosts = [] := by
  have hsettled : ((new 1).run (twoRequests "a" ++ dropping 1 ++ dropping 0)).Settled := by decide
  have hdeparted : departed (new 1) [] (twoRequests "a" ++ dropping 1 ++ dropping 0) = [] := by
    decide
  have hin : ∀ g ∈ departed (new 1) [] (twoRequests "a" ++ dropping 1 ++ dropping 0),
      g ∈ ((new 1).run (twoRequests "a" ++ dropping 1 ++ dropping 0)).activeHosts := by
    rw [hdeparted]
    simp
  exact ⟨hsettled, hin, (run_tracks_active_or_departed 1 _ hsettled).2.2.2 hin, by decide⟩

/-- If the permit is given back first and the second request then stops waiting, before it is polled
again, nobody holds or awaits a permit and the host is tracked still. -/
theorem idle_host_tracked_of_cancelled_last :
    ((new 1).run (twoRequests "a" ++ dropping 0 ++ dropping 1)).Settled
      ∧ ((new 1).run (twoRequests "a" ++ dropping 0 ++ dropping 1)).tickets
        = [.closed "a", .closed "a"]
      ∧ ((new 1).run (twoRequests "a" ++ dropping 0 ++ dropping 1)).activeHosts = []
      ∧ ((new 1).run (twoRequests "a" ++ dropping 0 ++ dropping 1)).trackedHosts = ["a"]
      ∧ ((new 1).run (twoRequests "a" ++ dropping 0 ++ dropping 1)).tracked = 1 := by
  decide

end HostLimits

end BearerAuth.Transport
