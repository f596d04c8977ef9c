import BearerAuth.Transport.HostLimits
import Mathlib.Data.List.Nodup

/-!
# No permit is lost

While the limits track a host, there is one semaphore for it, every request of the host that has
hold of a semaphore has hold of that one, and the permits left of it are those that no request of
the host holds (`Balanced`). Every step keeps this (`balanced_step`): a host is pruned only when
none of its permits is held, so a new semaphore has as many left as the old one had. Limits without
a cap come to track no host at all (`uncapped_step`).
-/

namespace BearerAuth.Transport

def Ticket.holds (g : String) : Ticket → Bool
  | holding h _ => h == g
  | _ => false

theorem Ticket.holds_of_ne {t : Ticket} {g : String} (h : t.host ≠ g) : t.holds g = false := by
  cases t with
  | holding g' s => exact beq_eq_false_iff_ne.2 h
  | _ => rfl

namespace HostLimits

/-- How many permits of a host are held. -/
def held (l : HostLimits) (g : String) : Nat :=
  l.tickets.countP (·.holds g)

/-- How many permits of a host may still be taken. -/
def free (l : HostLimits) (g : String) : Nat :=
  match l.hosts.lookup g with
  | some s => l.left s
  | none => l.max

/-- The semaphores of the hosts, and the permits left of them, fit what the tickets say. -/
structure Balanced (l : HostLimits) : Prop where
  hosts_nodup : (l.hosts.map Prod.fst).Nodup
  semaphores_nodup : (l.hosts.map Prod.snd).Nodup
  made : ∀ e ∈ l.hosts, e.2 < l.available.length
  tracked : ∀ t ∈ l.tickets, ∀ s, t.semaphore? = some s → (t.host, s) ∈ l.hosts
  balance : ∀ e ∈ l.hosts, l.held e.1 + l.left e.2 = l.max

variable {l : HostLimits} {i : Nat} {t t' : Ticket} {g : String} {s : Nat}

theorem held_put (ht : l.tickets[i]? = some t) (t' : Ticket) (g : String) :
    (l.put i t').held g + (if t.holds g then 1 else 0)
      = l.held g + (if t'.holds g then 1 else 0) := by
  obtain ⟨hi, rfl⟩ := List.getElem?_eq_some_iff.1 ht
  have hset : (l.put i t').held g = l.held g - (if l.tickets[i].holds g then 1 else 0)
      + (if t'.holds g then 1 else 0) := List.countP_set hi
  have hpos : l.tickets[i].holds g → 0 < l.held g := fun h =>
    List.countP_pos_iff.2 ⟨_, List.getElem_mem hi, h⟩
  rw [hset]
  by_cases hold : l.tickets[i].holds g
  · have := hpos hold
    simp only [hold, if_true]
    omega
  · simp only [hold, Bool.false_eq_true, if_false]
    omega

theorem left_set {n : Nat} (hs : s < l.available.length) (r : Nat) :
    left { l with available := l.available.set s n } r = if s = r then n else l.left r := by
  simp only [left, List.getD_eq_getElem?_getD, List.getElem?_set]
  split_ifs <;> rfl

theorem balanced_new (max : Nat) : Balanced (new max) where
  hosts_nodup := List.nodup_nil
  semaphores_nodup := List.nodup_nil
  made e he := by simp [new] at he
  tracked t ht := by simp [new] at ht
  balance e he := by simp [new] at he

namespace Balanced

theorem semaphore_eq (h : Balanced l) {s' : Nat} (hs : (g, s) ∈ l.hosts) (hs' : (g, s') ∈ l.hosts) :
    s = s' :=
  congrArg Prod.snd (List.inj_on_of_nodup_map h.hosts_nodup hs hs' rfl)

theorem host_eq (h : Balanced l) {g' : String} (hs : (g, s) ∈ l.hosts) (hs' : (g', s) ∈ l.hosts) :
    g = g' :=
  congrArg Prod.fst (List.inj_on_of_nodup_map h.semaphores_nodup hs hs' rfl)

theorem lookup_eq_some_iff (h : Balanced l) : l.hosts.lookup g = some s ↔ (g, s) ∈ l.hosts := by
  constructor
  · intro hs
    obtain ⟨pre, post, hhosts, -⟩ := List.lookup_eq_some_iff.1 hs
    simp [hhosts]
  · intro hs
    rcases hlookup : l.hosts.lookup g with _ | s'
    · simpa using List.lookup_eq_none_iff.1 hlookup _ hs
    · obtain ⟨pre, post, hhosts, -⟩ := List.lookup_eq_some_iff.1 hlookup
      have hs' : (g, s') ∈ l.hosts := by simp [hhosts]
      rw [h.semaphore_eq hs hs']

/-- A ticket may be replaced by one that holds the same. -/
theorem put (h : Balanced l) (ht : l.tickets[i]? = some t)
    (hsemaphore : ∀ s, t'.semaphore? = some s → (t'.host, s) ∈ l.hosts)
    (hholds : ∀ g, t'.holds g = t.holds g) : Balanced (l.put i t') where
  hosts_nodup := h.hosts_nodup
  semaphores_nodup := h.semaphores_nodup
  made := h.made
  tracked u hu s hs := by
    rcases List.mem_or_eq_of_mem_set hu with hu | rfl
    · exact h.tracked u hu s hs
    · exact hsemaphore s hs
  balance e he := by
    have := held_put ht t' e.1
    rw [hholds] at this
    rw [Nat.add_right_cancel this]
    exact h.balance e he

/-- A ticket may take or give a permit, if what is left then fits what is held. -/
theorem exchange (h : Balanced l) (ht : l.tickets[i]? = some t) (hs : (g, s) ∈ l.hosts) {n : Nat}
    (hsemaphore : ∀ r, t'.semaphore? = some r → (t'.host, r) ∈ l.hosts)
    (hothers : ∀ g', g' ≠ g → t'.holds g' = t.holds g') (hn : (l.put i t').held g + n = l.max) :
    Balanced ({ l with available := l.available.set s n }.put i t') where
  hosts_nodup := h.hosts_nodup
  semaphores_nodup := h.semaphores_nodup
  made e he := by
    simp only [HostLimits.put, List.length_set]
    exact h.made e he
  tracked u hu r hr := by
    rcases List.mem_or_eq_of_mem_set hu with hu | rfl
    · exact h.tracked u hu r hr
    · exact hsemaphore r hr
  balance e he := by
    have hleft : ({ l with available := l.available.set s n }.put i t').left e.2
        = if s = e.2 then n else l.left e.2 := left_set (h.made _ hs) e.2
    have hheld : ({ l with available := l.available.set s n }.put i t').held e.1
        = (l.put i t').held e.1 := rfl
    rw [hleft, hheld]
    by_cases hg : e.1 = g
    · have hse : s = e.2 := h.semaphore_eq hs (hg ▸ he)
      rw [if_pos hse, hg]
      exact hn
    · have hse : s ≠ e.2 := fun hse => hg (h.host_eq he (hse ▸ hs))
      have hput := held_put ht t' e.1
      rw [hothers _ hg] at hput
      rw [if_neg hse, Nat.add_right_cancel hput]
      exact h.balance e he

/-- A host of which no request has hold of a semaphore has no permit that is held. -/
theorem held_eq_zero (h : Balanced l) (hlookup : l.hosts.lookup g = none) : l.held g = 0 := by
  refine List.countP_eq_zero.2 fun t ht hholds => ?_
  cases t with
  | holding g' s =>
    have hmem := h.tracked _ ht s rfl
    obtain rfl : g' = g := by simpa [Ticket.holds] using hholds
    simpa [Ticket.host] using List.lookup_eq_none_iff.1 hlookup _ hmem
  | _ => simp [Ticket.holds] at hholds

theorem make (h : Balanced l) (hlookup : l.hosts.lookup g = none) :
    Balanced { l with
      available := l.available ++ [l.max], hosts := l.hosts ++ [(g, l.available.length)] } where
  hosts_nodup := by
    rw [List.map_append, List.nodup_append]
    refine ⟨h.hosts_nodup, List.nodup_singleton _, fun a ha b hb => ?_⟩
    obtain ⟨e, he, rfl⟩ := List.mem_map.1 ha
    have hne := List.lookup_eq_none_iff.1 hlookup e he
    obtain rfl : b = g := by simpa using hb
    exact fun heq => by simp [heq] at hne
  semaphores_nodup := by
    rw [List.map_append, List.nodup_append]
    refine ⟨h.semaphores_nodup, List.nodup_singleton _, fun a ha b hb => ?_⟩
    obtain ⟨e, he, rfl⟩ := List.mem_map.1 ha
    have := h.made e he
    simp only [List.map_cons, List.map_nil, List.mem_singleton] at hb
    omega
  made e he := by
    rw [List.length_append, List.length_singleton]
    rcases List.mem_append.1 he with he | he
    · exact Nat.lt_succ_of_lt (h.made e he)
    · obtain rfl := List.mem_singleton.1 he
      exact Nat.lt_succ_self _
  tracked t ht s hs := List.mem_append_left _ (h.tracked t ht s hs)
  balance e he := by
    rcases List.mem_append.1 he with he | he
    · have hleft : (l.available ++ [l.max]).getD e.2 0 = l.left e.2 := by
        rw [left, List.getD_eq_getElem?_getD, List.getD_eq_getElem?_getD,
          List.getElem?_append_left (h.made e he)]
      rw [left, hleft]
      exact h.balance e he
    · obtain rfl := List.mem_singleton.1 he
      have hheld := h.held_eq_zero hlookup
      simp only [held, left] at hheld ⊢
      simp [hheld]

/-- Of the hosts that are in use nothing is forgotten. -/
theorem pruned (h : Balanced l) : Balanced l.pruned where
  hosts_nodup := h.hosts_nodup.sublist (List.filter_sublist.map _)
  semaphores_nodup := h.semaphores_nodup.sublist (List.filter_sublist.map _)
  made e he := h.made e (List.mem_of_mem_filter he)
  tracked t ht s hs := by
    refine List.mem_filter.2 ⟨h.tracked t ht s hs, List.any_eq_true.2 ⟨t, ht, ?_⟩⟩
    exact decide_eq_true hs
  balance e he := h.balance e (List.mem_of_mem_filter he)

/-- The permits that are held and those that may still be taken are all there are, also where a
host is not tracked. -/
theorem held_add_free (h : Balanced l) (g : String) : l.held g + l.free g = l.max := by
  unfold free
  rcases hlookup : l.hosts.lookup g with _ | s
  · simp only [h.held_eq_zero hlookup, Nat.zero_add]
  · exact h.balance (g, s) (h.lookup_eq_some_iff.1 hlookup)

theorem of_mem (h : Balanced l) (ht : l.tickets[i]? = some t) (hs : t.semaphore? = some s) :
    (t.host, s) ∈ l.hosts :=
  h.tracked t (List.mem_of_getElem? ht) s hs

/-- A ticket that needs no semaphore any more. -/
theorem close (h : Balanced l) (ht : l.tickets[i]? = some t) (hnone : t'.semaphore? = none)
    (hholds : ∀ g, t.holds g = false) : Balanced (l.put i t') := by
  refine h.put ht (fun s hs => ?_) fun g => ?_
  · rw [hnone] at hs
    cases hs
  · rw [hholds]
    cases t' with
    | holding _ _ => simp [Ticket.semaphore?] at hnone
    | _ => rfl

end Balanced

theorem balanced_ask (h : Balanced l) (ht : l.tickets[i]? = some (.unasked g)) :
    Balanced (l.moved i (.unasked g) .ask) := by
  simp only [moved]
  split_ifs
  · exact h.close ht rfl fun _ => rfl
  rcases hlookup : l.hosts.lookup g with _ | s
  · refine (h.make hlookup).put ht (fun s hs => ?_) fun _ => rfl
    obtain rfl := Option.some.inj hs
    exact List.mem_append_right _ (List.mem_singleton_self _)
  · refine h.put ht (fun s' hs => ?_) fun _ => rfl
    obtain rfl := Option.some.inj hs
    exact h.lookup_eq_some_iff.1 hlookup

theorem balanced_poll (h : Balanced l) (ht : l.tickets[i]? = some (.waiting g s)) :
    Balanced (l.moved i (.waiting g s) .poll) := by
  simp only [moved]
  split_ifs with hleft
  · have hs : (g, s) ∈ l.hosts := h.of_mem ht rfl
    refine h.exchange ht hs (fun r hr => ?_) (fun g' hg' => ?_) ?_
    · obtain rfl := Option.some.inj hr
      exact hs
    · simp [Ticket.holds, Ne.symm hg']
    · have hput := held_put ht (.holding g s) g
      have hbalance : l.held g + l.left s = l.max := h.balance _ hs
      simp only [Ticket.holds, beq_self_eq_true, Bool.false_eq_true, if_true, if_false] at hput
      omega
  · exact h

theorem balanced_giveBack (h : Balanced l) (ht : l.tickets[i]? = some (.holding g s)) :
    Balanced (l.moved i (.holding g s) .giveBack) := by
  have hs : (g, s) ∈ l.hosts := h.of_mem ht rfl
  refine h.exchange ht hs (fun r hr => ?_) (fun g' hg' => ?_) ?_
  · cases hr
  · simp [Ticket.holds, Ne.symm hg']
  · have hput := held_put ht (.released g) g
    have hbalance : l.held g + l.left s = l.max := h.balance _ hs
    simp only [Ticket.holds, beq_self_eq_true, Bool.false_eq_true, if_true, if_false] at hput
    omega

theorem balanced_moved (h : Balanced l) (ht : l.tickets[i]? = some t) (m : Move) :
    Balanced (l.moved i t m) := by
  unfold moved
  split
  · exact balanced_ask h ht
  · exact balanced_poll h ht
  · exact h.close ht rfl fun _ => rfl
  · refine h.put ht (fun r hr => ?_) fun _ => rfl
    exact h.tracked _ (List.mem_of_getElem? ht) r hr
  · exact balanced_giveBack h ht
  · exact (h.close ht rfl fun _ => rfl).pruned
  · refine h.pruned.put ht (fun r hr => ?_) fun _ => rfl
    exact h.pruned.tracked _ (List.mem_of_getElem? ht) r hr
  · exact h.close ht rfl fun _ => rfl
  · exact h.close ht rfl fun _ => rfl
  · exact h

theorem balanced_step (h : Balanced l) (x : LimitStep) : Balanced (l.step x) := by
  cases x with
  | enter g =>
    have hheld : ∀ g', (l.step (.enter g)).held g' = l.held g' := fun g' => by
      simp only [held, step, List.countP_append, List.countP_singleton, Ticket.holds,
        Bool.false_eq_true, if_false, Nat.add_zero]
    refine ⟨h.hosts_nodup, h.semaphores_nodup, h.made, fun t ht s hs => ?_, fun e he => ?_⟩
    · rcases List.mem_append.1 ht with ht | ht
      · exact h.tracked t ht s hs
      · obtain rfl := List.mem_singleton.1 ht
        cases hs
    · rw [hheld]
      exact h.balance e he
  | move i m =>
    simp only [step]
    rcases ht : l.tickets[i]? with _ | t
    · exact h
    · exact balanced_moved h ht m

/-- What every step keeps, every run keeps. -/
theorem run_induction {P : HostLimits → Prop} (hstep : ∀ l x, P l → P (step l x)) :
    ∀ (steps : List LimitStep) {l : HostLimits}, P l → P (run l steps)
  | [], _, h => h
  | x :: steps, l, h => run_induction hstep steps (hstep l x h)

theorem balanced_run (max : Nat) (steps : List LimitStep) : Balanced (run (new max) steps) :=
  run_induction (P := Balanced) (fun _ x h => balanced_step h x) steps (balanced_new max)

theorem free_eq_left (h : Balanced l) (hs : (g, s) ∈ l.hosts) : l.free g = l.left s := by
  simp only [free, h.lookup_eq_some_iff.2 hs]

/-- A poll takes a permit exactly if not all permits of the host are held. -/
theorem poll_iff (h : Balanced l) (ht : l.tickets[i]? = some (.waiting g s)) :
    (l.step (.move i .poll)).tickets[i]? = some (.holding g s) ↔ l.held g < l.max := by
  have hi := (List.getElem?_eq_some_iff.1 ht).1
  have hleft := free_eq_left h (h.of_mem ht rfl)
  have hbalance := h.held_add_free g
  simp only [step, ht, moved]
  split_ifs with hpos
  · simp only [put, List.getElem?_set_self hi, true_iff]
    simp only [Ticket.host] at hleft
    omega
  · simp only [ht, Option.some.injEq, reduceCtorEq, false_iff]
    simp only [Ticket.host] at hleft
    omega

theorem semaphore_unique (h : Balanced l) {t u : Ticket} (ht : t ∈ l.tickets) (hu : u ∈ l.tickets)
    (hhost : t.host = u.host) {r : Nat} (hs : t.semaphore? = some s) (hr : u.semaphore? = some r) :
    s = r :=
  h.semaphore_eq (h.tracked t ht s hs) (hhost ▸ h.tracked u hu r hr)

/-- Limits that limit nothing. -/
structure Uncapped (l : HostLimits) : Prop where
  max_eq : l.max = 0
  hosts_eq : l.hosts = []
  tickets : ∀ t ∈ l.tickets, t.semaphore? = none

theorem Uncapped.put (h : Uncapped l) {t : Ticket} (ht : t.semaphore? = none) :
    Uncapped (l.put i t) where
  max_eq := h.max_eq
  hosts_eq := h.hosts_eq
  tickets u hu := by
    rcases List.mem_or_eq_of_mem_set hu with hu | rfl
    · exact h.tickets u hu
    · exact ht

theorem Uncapped.pruned (h : Uncapped l) : Uncapped l.pruned where
  max_eq := h.max_eq
  hosts_eq := by
    simp only [HostLimits.pruned, h.hosts_eq, inUse, List.filter_nil]
  tickets := h.tickets

theorem uncapped_step (h : Uncapped l) (x : LimitStep) : Uncapped (l.step x) := by
  cases x with
  | enter g =>
    refine ⟨h.max_eq, h.hosts_eq, fun t ht => ?_⟩
    rcases List.mem_append.1 ht with ht | ht
    · exact h.tickets t ht
    · obtain rfl := List.mem_singleton.1 ht
      rfl
  | move i m =>
    simp only [step]
    rcases ht : l.tickets[i]? with _ | t
    · exact h
    have hnone := h.tickets t (List.mem_of_getElem? ht)
    cases t with
    | waiting _ _ | holding _ _ | cancelled _ _ | leaving _ _ => cases hnone
    | unasked g =>
      cases m with
      | ask =>
        simp only [moved, h.max_eq, if_true]
        exact h.put rfl
      | cancel => exact h.put rfl
      | _ => exact h
    | released g =>
      cases m with
      | prune => exact (h.put rfl).pruned
      | _ => exact h
    | unlimited g =>
      cases m with
      | letGo => exact h.put rfl
      | _ => exact h
    | closed g => cases m <;> exact h

theorem uncapped_run (steps : List LimitStep) : Uncapped ((new 0).run steps) :=
  run_induction (P := Uncapped) (fun _ x h => uncapped_step h x) steps
    ⟨rfl, rfl, fun _ ht => by simp [new] at ht⟩

theorem max_moved (l : HostLimits) (i : Nat) (t : Ticket) (m : Move) :
    (l.moved i t m).max = l.max := by
  unfold moved
  split
  · split_ifs
    · rfl
    · split <;> rfl
  · split_ifs <;> rfl
  all_goals rfl

theorem max_step (l : HostLimits) (x : LimitStep) : (l.step x).max = l.max := by
  cases x with
  | enter h => rfl
  | move i m =>
    simp only [step]
    split
    · exact max_moved l i _ m
    · rfl

theorem max_run (max : Nat) (steps : List LimitStep) : ((new max).run steps).max = max :=
  run_induction (P := fun l => l.max = max) (fun l x h => (max_step l x).trans h) steps rfl

end HostLimits

end BearerAuth.Transport
