import BearerAuth.Proofs.Transport.HostCounter
import BearerAuth.Proofs.Url.HostPort
import BearerAuth.Transport.Pooled
import Mathlib.Data.List.Induction

/-!
# Each place has a cap of its own

The ticket of a request bears the text of the place where the request goes (`map_host_carry`). Two
URLs that can be read have the same text only if they name the same place
(`IsRead.hostPort_eq_iff`), so a cap counts the requests to one place and no others (`held_eq`).
-/

namespace BearerAuth

/-- Two URLs have the same host, which may be none, and the same effective port. -/
def Url.SamePlace (u v : Url) : Prop :=
  u.host.text = v.host.text ∧ u.effectivePort = v.effectivePort

instance (u v : Url) : Decidable (u.SamePlace v) :=
  inferInstanceAs (Decidable (u.host.text = v.host.text ∧ u.effectivePort = v.effectivePort))

theorem Url.IsRead.hostPort_eq_iff {u v : Url} (hu : u.IsRead) (hv : v.IsRead) :
    u.hostPort = v.hostPort ↔ u.SamePlace v :=
  hostPort_eq_iff_of_isPlain hu.hasPlainHost hv.hasPlainHost

namespace Transport

def Ticket.isHolding : Ticket → Bool
  | holding .. => true
  | _ => false

theorem Ticket.holds_eq (t : Ticket) (g : String) : t.holds g = (t.host == g && t.isHolding) := by
  cases t <;> simp [holds, isHolding, host]

namespace Pooled

variable {p : Pooled} {steps : List CarryStep} {u v : Url}

/-- How many requests to the place of `u` hold a permit. -/
def held (p : Pooled) (steps : List CarryStep) (u : Url) : Nat :=
  ((CarryStep.urls steps).zip (p.carry steps).tickets).countP fun (v, t) =>
    v.SamePlace u ∧ t.isHolding

theorem map_host_step (l : HostLimits) (x : CarryStep) :
    (l.step x.limitStep).tickets.map Ticket.host
      = l.tickets.map Ticket.host ++ (CarryStep.urls [x]).map Url.hostPort := by
  cases x with
  | enter url =>
    simp [CarryStep.limitStep, HostLimits.step, CarryStep.urls, CarryStep.url?, Ticket.host]
  | move i m =>
    have hurls : CarryStep.urls [.move i m] = [] := rfl
    rw [hurls, List.map_nil, List.append_nil]
    simp only [CarryStep.limitStep, HostLimits.step]
    rcases ht : l.tickets[i]? with _ | t
    · rfl
    · obtain ⟨u, hset, hhost⟩ := HostLimits.exists_tickets_moved ht m
      obtain ⟨hi, rfl⟩ := List.getElem?_eq_some_iff.1 ht
      rw [hset, List.map_set, hhost, ← List.getElem_map Ticket.host (h := by simpa using hi),
        List.set_getElem_self]

/-- Each ticket is that of the request with its number, and for the place where that one goes. -/
theorem map_host_carry (p : Pooled) (steps : List CarryStep) :
    (p.carry steps).tickets.map Ticket.host = (CarryStep.urls steps).map Url.hostPort := by
  induction steps using List.reverseRecOn with
  | nil => rfl
  | append_singleton steps x ih =>
    have hcarry : p.carry (steps ++ [x]) = (p.carry steps).step x.limitStep := by
      simp [carry, HostLimits.run]
    have hurls : CarryStep.urls (steps ++ [x]) = CarryStep.urls steps ++ CarryStep.urls [x] :=
      List.filterMap_append
    rw [hcarry, map_host_step, ih, hurls, List.map_append]

theorem host_eq_hostPort {i : Nat} {t : Ticket} (hu : (CarryStep.urls steps)[i]? = some u)
    (ht : (p.carry steps).tickets[i]? = some t) : t.host = u.hostPort := by
  have h := congrArg (·[i]?) (map_host_carry p steps)
  simpa [hu, ht] using h

theorem countP_zip_eq (hu : u.IsRead) : ∀ {urls : List Url} {tickets : List Ticket},
    tickets.map Ticket.host = urls.map Url.hostPort → (∀ v ∈ urls, v.IsRead) →
    (urls.zip tickets).countP (fun (v, t) => v.SamePlace u ∧ t.isHolding)
      = tickets.countP (·.holds u.hostPort)
  | [], [], _, _ => rfl
  | [], _ :: _, h, _ => by cases h
  | _ :: _, [], h, _ => by cases h
  | v :: urls, t :: tickets, h, hread => by
    rw [List.map_cons, List.map_cons, List.cons.injEq] at h
    have hv : v.hostPort = u.hostPort ↔ v.SamePlace u :=
      (hread v List.mem_cons_self).hostPort_eq_iff hu
    have hrest := countP_zip_eq hu h.2 fun v hv => hread v (List.mem_cons_of_mem _ hv)
    rw [List.zip_cons_cons, List.countP_cons, List.countP_cons, hrest, Ticket.holds_eq, h.1]
    simp [← hv]

/-- The permits that are held under the text of a place are those of the requests that go there. -/
theorem held_eq (hread : ∀ v ∈ CarryStep.urls steps, v.IsRead) (hu : u.IsRead) :
    (p.carry steps).held u.hostPort = p.held steps u :=
  (countP_zip_eq hu (map_host_carry p steps) hread).symm

theorem balanced_carry (p : Pooled) (steps : List CarryStep) : (p.carry steps).Balanced :=
  HostLimits.balanced_run _ _

theorem max_carry (p : Pooled) (steps : List CarryStep) :
    (p.carry steps).max = p.config.maxConnsPerHost :=
  HostLimits.max_run _ _

/-- Requests wait for the same permits exactly if they go to the same place. -/
theorem semaphore_eq_iff (hread : ∀ v ∈ CarryStep.urls steps, v.IsRead) {i j s r : Nat}
    {t w : Ticket} (hu : (CarryStep.urls steps)[i]? = some u)
    (hv : (CarryStep.urls steps)[j]? = some v)
    (ht : (p.carry steps).tickets[i]? = some t) (hw : (p.carry steps).tickets[j]? = some w)
    (hs : t.semaphore? = some s) (hr : w.semaphore? = some r) : s = r ↔ u.SamePlace v := by
  have h := balanced_carry p steps
  have hread_u := hread u (List.mem_of_getElem? hu)
  have hread_v := hread v (List.mem_of_getElem? hv)
  rw [← hread_u.hostPort_eq_iff hread_v, ← host_eq_hostPort hu ht, ← host_eq_hostPort hv hw]
  constructor
  · rintro rfl
    exact h.host_eq (h.of_mem ht hs) (h.of_mem hw hr)
  · intro hhost
    exact HostLimits.semaphore_unique h (List.mem_of_getElem? ht) (List.mem_of_getElem? hw) hhost
      hs hr

theorem held_le (hread : ∀ v ∈ CarryStep.urls steps, v.IsRead) (hu : u.IsRead) :
    p.held steps u ≤ p.config.maxConnsPerHost := by
  have hbalance := (balanced_carry p steps).held_add_free u.hostPort
  rw [held_eq hread hu, max_carry] at hbalance
  omega

end Pooled

/-- The text of a place tells it: of URLs that can be read, on their own or relative to others, the
texts agree exactly if the hosts and the effective ports do, whatever the schemes are and the kinds
of the hosts. So of the requests under a cap those share it that go to the same host and port, and
no others: they wait for the same permits, never do more of them hold one than the cap says, and a
request that waits is let through exactly if fewer of them do. -/
theorem requests_share_cap_iff_same_place :
    (∀ u v : Url, u.IsRead → v.IsRead → (u.hostPort = v.hostPort ↔
      u.host.text = v.host.text ∧ u.effectivePort = v.effectivePort))
    ∧ ∀ (p : Pooled) (steps : List CarryStep), (∀ u ∈ CarryStep.urls steps, u.IsRead) →
      (p.carry steps).tickets.length = (CarryStep.urls steps).length
      ∧ ∀ (i : Nat) (u : Url) (t : Ticket), (CarryStep.urls steps)[i]? = some u →
        (p.carry steps).tickets[i]? = some t →
        p.held steps u ≤ p.config.maxConnsPerHost
        ∧ (∀ g s, t = .waiting g s →
          (((p.carry steps).step (.move i .poll)).tickets[i]? = some (.holding g s) ↔
            p.held steps u < p.config.maxConnsPerHost))
        ∧ ∀ (j : Nat) (v : Url) (w : Ticket), (CarryStep.urls steps)[j]? = some v →
          (p.carry steps).tickets[j]? = some w →
          ∀ s ∈ t.semaphore?, ∀ r ∈ w.semaphore?, s = r ↔ u.SamePlace v := by
  refine ⟨fun u v hu hv => hu.hostPort_eq_iff hv, fun p steps hread => ⟨?_, ?_⟩⟩
  · simpa using congrArg List.length (p.map_host_carry steps)
  intro i u t hu ht
  have hread_u : u.IsRead := hread u (List.mem_of_getElem? hu)
  refine ⟨Pooled.held_le hread hread_u, ?_, fun j v w hv hw s hs r hr =>
    Pooled.semaphore_eq_iff hread hu hv ht hw hs hr⟩
  rintro g s rfl
  have hg : g = u.hostPort := Pooled.host_eq_hostPort hu ht
  rw [HostLimits.poll_iff (p.balanced_carry steps) ht, hg, Pooled.held_eq hread hread_u,
    Pooled.max_carry]

/-- A URL without user, port, query and fragment. -/
def plainUrl (scheme : String) (host : Url.Host) (path : String) : Url :=
  ⟨scheme.toList, some ⟨[], none, host, none⟩, .rooted path.toList, none, none⟩

def namedHost : Url.Host :=
  .name "api.example.com".toList

/-- An address whose last group looks like a port. -/
def numberedHost : Url.Host :=
  .ipv6 ⟨[0, 0, 0, 0, 0, 0, 0, 0x443]⟩

def oneAtATime : Pooled :=
  ⟨0, .ofSettings [.poolLimits 1 1], .silent⟩

/-- Two requests to one place and one to another. The first has its permit, and the others wait. -/
def threeRequests : List CarryStep :=
  [.enter (plainUrl "https" namedHost "/v1"), .enter (plainUrl "https" namedHost "/v2"),
    .enter (plainUrl "http" numberedHost "/"), .move 0 .ask, .move 0 .poll, .move 1 .ask,
    .move 2 .ask]

theorem isRead_threeRequests : ∀ u ∈ CarryStep.urls threeRequests, u.IsRead := by
  have hfirst : Url.parse "https://api.example.com:443/v1"
      = .ok (plainUrl "https" namedHost "/v1") := by
    decide +kernel
  have hsecond : (plainUrl "https" namedHost "/v1").join "//API.example.com/v2"
      = .ok (plainUrl "https" namedHost "/v2") := by
    decide +kernel
  have hthird : Url.parse "http://[::443]:80" = .ok (plainUrl "http" numberedHost "/") := by
    decide +kernel
  have hurls : CarryStep.urls threeRequests = [plainUrl "https" namedHost "/v1",
    plainUrl "https" namedHost "/v2", plainUrl "http" numberedHost "/"] := rfl
  rw [hurls, List.forall_mem_cons, List.forall_mem_cons, List.forall_mem_singleton]
  exact ⟨.alone hfirst, .joined (.alone hfirst) hsecond, .alone hthird⟩

/-- Of the two that wait, only the one to the other place is let through. -/
theorem cap_shared_by_two_of_three :
    ((oneAtATime.carry threeRequests).step (.move 1 .poll)).tickets[1]?
        ≠ some (Ticket.holding "api.example.com:443" 0)
      ∧ ((oneAtATime.carry threeRequests).step (.move 2 .poll)).tickets[2]?
        = some (Ticket.holding "[::443]:80" 1) := by
  obtain ⟨-, hrequests⟩ :=
    requests_share_cap_iff_same_place.2 oneAtATime threeRequests isRead_threeRequests
  have hsecond : oneAtATime.held threeRequests (plainUrl "https" namedHost "/v2") = 1 := by
    decide +kernel
  have hthird : oneAtATime.held threeRequests (plainUrl "http" numberedHost "/") = 0 := by
    decide +kernel
  constructor
  · have hpoll := (hrequests 1 _ _ rfl (by decide +kernel)).2.1 "api.example.com:443" 0 rfl
    rw [hsecond] at hpoll
    exact fun h => absurd (hpoll.1 h) (by decide)
  · have hpoll := (hrequests 2 _ _ rfl (by decide +kernel)).2.1 "[::443]:80" 1 rfl
    rw [hthird] at hpoll
    exact hpoll.2 (by decide)

end Transport

end BearerAuth
