import BearerAuth.Proofs.Transport.Counter
import BearerAuth.Proofs.Transport.Permits

/-!
# The limits are one counter for each host

A host cannot tell the limits from a counter of its own: what its tickets go through in a run of the
limits, they go through at the counter (`counter_run`). Semaphores do not show, since what is left of
the host's semaphore is what is left at the counter (`counter_poll`), whichever semaphore it is.
-/

namespace BearerAuth.Transport

namespace HostLimits

/-- The limits as one host sees them. -/
def counter (l : HostLimits) (g : String) : Counter :=
  ⟨l.free g, l.tickets.map (·.stageAt g)⟩

variable {l l' : HostLimits} {i : Nat} {t u : Ticket} {g : String} {s : Nat}

/-- A ticket keeps its number and its host. -/
theorem exists_tickets_moved (ht : l.tickets[i]? = some t) (m : Move) :
    ∃ u, (l.moved i t m).tickets = l.tickets.set i u ∧ u.host = t.host := by
  have hsame : l.tickets = l.tickets.set i t := by
    obtain ⟨hi, rfl⟩ := List.getElem?_eq_some_iff.1 ht
    exact (List.set_getElem_self hi).symm
  unfold moved
  split
  · split_ifs
    · exact ⟨_, rfl, rfl⟩
    · split <;> exact ⟨_, rfl, rfl⟩
  · split_ifs
    · exact ⟨_, rfl, rfl⟩
    · exact ⟨_, hsame, rfl⟩
  all_goals first | exact ⟨_, rfl, rfl⟩ | exact ⟨_, hsame, rfl⟩

/-- What may be taken changes as what the ticket holds does. -/
theorem free_of_set (h : Balanced l) (h' : Balanced l') (hmax : l'.max = l.max)
    (ht : l.tickets[i]? = some t) (hset : l'.tickets = l.tickets.set i u) (g : String) :
    l'.free g + (if u.holds g then 1 else 0) = l.free g + (if t.holds g then 1 else 0) := by
  have hbefore := h.held_add_free g
  have hafter := h'.held_add_free g
  have hheld : l'.held g = (l.put i u).held g := by
    simp only [held, hset, put]
  have hput := held_put ht u g
  omega

theorem stages_of_set (hset : l'.tickets = l.tickets.set i u) (hhost : u.host = g) :
    (l'.counter g).stages = (l.counter g).stages.set i (some u.stage) := by
  simp only [counter, hset, List.map_set, Ticket.stageAt_of_eq hhost]

/-- A step in which a ticket of the host takes or gives no permit. -/
theorem counter_put (h : Balanced l) (h' : Balanced l') (hmax : l'.max = l.max)
    (ht : l.tickets[i]? = some t) (hset : l'.tickets = l.tickets.set i u) (hhost : u.host = g)
    (hholds : u.holds g = t.holds g) : l'.counter g = (l.counter g).put i u.stage := by
  have hfree := free_of_set h h' hmax ht hset g
  rw [hholds] at hfree
  exact Counter.ext (Nat.add_right_cancel hfree) (stages_of_set hset hhost)

/-- The steps of one host leave the counters of all others as they are. -/
theorem counter_moved_of_ne (h : Balanced l) (ht : l.tickets[i]? = some t) (m : Move)
    (hg : t.host ≠ g) : (l.moved i t m).counter g = l.counter g := by
  obtain ⟨u, hset, hhost⟩ := exists_tickets_moved ht m
  have hg' : u.host ≠ g := hhost ▸ hg
  have hfree := free_of_set h (balanced_moved h ht m) (max_moved l i t m) ht hset g
  rw [Ticket.holds_of_ne hg, Ticket.holds_of_ne hg'] at hfree
  have hstages : (l.tickets.map (·.stageAt g)).set i none = l.tickets.map (·.stageAt g) := by
    obtain ⟨hi, rfl⟩ := List.getElem?_eq_some_iff.1 ht
    rw [← Ticket.stageAt_of_ne hg, ← List.map_set, List.set_getElem_self]
  simp only [counter, Nat.add_right_cancel hfree, hset, List.map_set, Ticket.stageAt_of_ne hg', hstages]

/-- A permit is left of the host's semaphore when one is left at the counter. -/
theorem counter_poll (h : Balanced l) (ht : l.tickets[i]? = some (.waiting g s)) :
    (l.moved i (.waiting g s) .poll).counter g = (l.counter g).moved i .waiting .poll := by
  have hleft : (l.counter g).free = l.left s := free_eq_left h (h.of_mem ht rfl)
  have h' := balanced_poll h ht
  simp only [moved, Counter.moved, hleft] at h' ⊢
  split_ifs at h' ⊢ with hpos
  · have hfree := free_of_set (u := .holding g s) h h' rfl ht rfl g
    simp only [Ticket.holds, beq_self_eq_true, Bool.false_eq_true, if_true, if_false,
      Nat.add_zero] at hfree
    rw [← hleft] at hfree ⊢
    exact Counter.ext (Nat.eq_sub_of_add_eq hfree) (stages_of_set (u := .holding g s) rfl rfl)
  · rfl

theorem counter_giveBack (h : Balanced l) (ht : l.tickets[i]? = some (.holding g s)) :
    (l.moved i (.holding g s) .giveBack).counter g
      = (l.counter g).moved i .holding .giveBack := by
  have hfree := free_of_set (u := .released g) h (balanced_giveBack h ht) rfl ht rfl g
  simp only [Ticket.holds, beq_self_eq_true, Bool.false_eq_true, if_true, if_false,
    Nat.add_zero] at hfree
  exact Counter.ext hfree (stages_of_set (u := .released g) rfl rfl)

theorem counter_moved (h : Balanced l) (hmax : 0 < l.max) (ht : l.tickets[i]? = some t) (m : Move)
    (hg : t.host = g) : (l.moved i t m).counter g = (l.counter g).moved i t.stage m := by
  have h' := balanced_moved h ht m
  have hmax' := max_moved l i t m
  cases t with
  | unasked g' =>
    cases m with
    | ask =>
      simp only [moved, Nat.ne_of_gt hmax, if_false] at h' hmax' ⊢
      rcases hlookup : l.hosts.lookup g' with _ | s
      · rw [hlookup] at h' hmax'
        exact counter_put h h' hmax' ht rfl hg rfl
      · rw [hlookup] at h' hmax'
        exact counter_put h h' hmax' ht rfl hg rfl
    | cancel => exact counter_put h h' hmax' ht rfl hg rfl
    | _ => rfl
  | waiting g' s =>
    cases m with
    | poll =>
      obtain rfl : g' = g := hg
      exact counter_poll h ht
    | cancel => exact counter_put h h' hmax' ht rfl hg rfl
    | _ => rfl
  | holding g' s =>
    cases m with
    | giveBack =>
      obtain rfl : g' = g := hg
      exact counter_giveBack h ht
    | _ => rfl
  | cancelled g' s =>
    cases m with
    | prune => exact counter_put h h' hmax' ht rfl hg rfl
    | _ => rfl
  | leaving g' s =>
    cases m with
    | letGo => exact counter_put h h' hmax' ht rfl hg rfl
    | _ => rfl
  | released g' =>
    cases m with
    | prune => exact counter_put h h' hmax' ht rfl hg rfl
    | _ => rfl
  | unlimited g' =>
    cases m with
    | letGo => exact counter_put h h' hmax' ht rfl hg rfl
    | _ => rfl
  | closed g' => cases m <;> rfl

theorem counter_step (h : Balanced l) (hmax : 0 < l.max) (x : LimitStep) :
    (l.step x).counter g = (l.counter g).step g x := by
  cases x with
  | enter h =>
    refine Counter.ext rfl ?_
    simp only [counter, step, Counter.step, List.map_append, List.map_cons, List.map_nil]
    rfl
  | move i m =>
    have hstage : (l.counter g).stages[i]? = l.tickets[i]?.map (·.stageAt g) := List.getElem?_map
    simp only [step, Counter.step, hstage]
    rcases ht : l.tickets[i]? with _ | t
    · rfl
    by_cases hg : t.host = g
    · simp only [Option.map_some, Ticket.stageAt_of_eq hg]
      exact counter_moved h hmax ht m hg
    · simp only [Option.map_some, Ticket.stageAt_of_ne hg]
      exact counter_moved_of_ne h ht m hg

/-- What one host sees of a run is a run of its counter. -/
theorem counter_run : ∀ (steps : List LimitStep) {l : HostLimits}, Balanced l → 0 < l.max →
    (l.run steps).counter g = (l.counter g).run g steps
  | [], _, _, _ => rfl
  | x :: steps, l, h, hmax => by
    have hlater := counter_run steps (balanced_step h x) (max_step l x ▸ hmax)
    rw [counter_step h hmax] at hlater
    exact hlater

/-- Under a cap, every run of the limits is, for each host, a run of a counter that is the host's
own. So a poll takes a permit exactly if fewer than the cap are held; those held and those that may
still be taken are always as many as the cap, however often the semaphore was thrown away and made
again, and there are never two; and what the tickets of other hosts do changes nothing. Without a
cap every request is let through, and no host is tracked. -/
theorem run_refines_counters (max : Nat) (steps : List LimitStep) :
    (0 < max → ∀ g,
      ((new max).run steps).counter g = (Counter.new max).run g steps
      ∧ ((new max).run steps).held g + ((new max).run steps).free g = max
      ∧ ((new max).run steps).held g ≤ max
      ∧ (∀ (i s : Nat), ((new max).run steps).tickets[i]? = some (.waiting g s) →
        ((((new max).run steps).step (.move i .poll)).tickets[i]? = some (.holding g s)
          ↔ ((new max).run steps).held g < max))
      ∧ (∀ t ∈ ((new max).run steps).tickets, ∀ u ∈ ((new max).run steps).tickets,
        t.host = g → u.host = g → ∀ s ∈ t.semaphore?, ∀ r ∈ u.semaphore?, s = r)
      ∧ ((new max).run (movesOf g [] steps)).counter g = ((new max).run steps).counter g)
    ∧ (max = 0 → ((new max).run steps).hosts = []
      ∧ ∀ (i : Nat) (g : String), ((new max).run steps).tickets[i]? = some (.unasked g) →
        (((new max).run steps).step (.move i .ask)).tickets[i]? = some (.unlimited g)) := by
  have hmax := max_run max steps
  have h := balanced_run max steps
  refine ⟨fun hpos g => ?_, ?_⟩
  · have hcounter : ∀ steps, ((new max).run steps).counter g = (Counter.new max).run g steps :=
      fun steps => counter_run steps (balanced_new max) hpos
    have hbalance := h.held_add_free g
    rw [hmax] at hbalance
    refine ⟨hcounter steps, hbalance, by omega, fun i s ht => ?_,
      fun t ht u hu hg hg' s hs r hr => ?_, ?_⟩
    · rw [poll_iff h ht, hmax]
    · exact semaphore_unique h ht hu (hg.trans hg'.symm) hs hr
    · rw [hcounter, hcounter]
      exact Counter.run_movesOf steps rfl
  · rintro rfl
    have hnone := uncapped_run steps
    refine ⟨hnone.hosts_eq, fun i g ht => ?_⟩
    have hi := (List.getElem?_eq_some_iff.1 ht).1
    simp only [step, ht, moved, hnone.max_eq, if_true, put, List.getElem?_set_self hi]

end HostLimits

end BearerAuth.Transport
